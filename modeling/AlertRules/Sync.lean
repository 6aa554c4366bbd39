/-
AlertRules/Sync.lean

Bringing the group of one definition to a ruler: build it, push it, read it back
and compare; or remove it.  The first failure ends an exchange and is its result;
nothing is tried twice.
-/
import AlertRules.Definition.Store
import AlertRules.Ruler.Client

namespace AlertRules

/-- What became of a definition's group. -/
inductive SyncOutcome
  | updated (group : RuleGroup)
  | removed (name : String)
  deriving DecidableEq, Repr

/-- The group of a definition that can be used. -/
def Definition.group (d : Definition) : Except SyncError RuleGroup := do
  d.validate.mapError .store
  d.build.mapError .build

/-- Goes on after a success. -/
def Exchange.andThen {α β : Type} (x : Exchange (Except SyncError α))
    (f : α → Exchange (Except SyncError β)) : Exchange (Except SyncError β) :=
  x.bind fun
    | .error e => .done (.error e)
    | .ok a => f a

namespace Client

/-- Pushes the group of a definition and verifies it. -/
def update (c : Client) (d : Definition) : Exchange (Except SyncError RuleGroup) :=
  match d.group with
  | .error e => .done (.error e)
  | .ok group =>
    (c.push group d.tenant).andThen fun _ =>
      (c.verify group d.tenant).map fun result => result.map fun _ => group

/-- Deletes the group of a definition. -/
def remove (c : Client) (id : DefinitionId) (tenant : String) :
    Exchange (Except SyncError Unit) :=
  c.delete id.render tenant

/-- Updates the group of a definition that there is, removes that of one that there
is not; `lookup` may fail. -/
def syncWith (c : Client) (lookup : Except Definition.Error (Option Definition))
    (tenant : String) (id : DefinitionId) : Exchange (Except SyncError SyncOutcome) :=
  match lookup with
  | .error e => .done (.error (.store e))
  | .ok (some d) => (c.update d).map fun result => result.map .updated
  | .ok none => (c.remove id tenant).map fun result => result.map fun _ => .removed id.render

/-- Brings the ruler in line with a store of definitions, for one of its keys. -/
def sync (c : Client) (definitions : Definitions) (tenant : String) (id : DefinitionId) :
    Exchange (Except SyncError SyncOutcome) :=
  c.syncWith (.ok (definitions.get? tenant id)) tenant id

end Client

/-! ### Deadlines -/

/-- The result of work that a deadline may have cut off. -/
def orDeadline {α : Type} (id : DefinitionId) :
    Option (Except SyncError α) → Except SyncError α
  | some result => result
  | none => .error (.deadline id.render)

end AlertRules
