/-
AlertRules/Proofs/Sync/Cell.lean

What bringing a definition to a plain ruler does to the one key that it is about.  An
update leaves the built group there and has it as its result, because a built group
agrees with what the ruler reads back of it; where no group is built nothing is sent.  A
removal leaves nothing there and always succeeds.

An update and a removal are the two operations of a client (`Operation`), and a sync is one
or the other of them.  `Operation.result` and `Operation.leaves` say without any ruler what
an operation comes to, `carryOut_cell` that this is so for a cell, and `carryOut_ruler` that
it is so for a plain ruler, of which no other key changes.

The ruler has to read in a document the group that the client wrote into it
(`Definition.IsLegible`).  It always does, since every group is read back from its document
(`Definition.isLegible`).
-/
import AlertRules.Proofs.Definition.Build
import AlertRules.Proofs.Rule.Document
import AlertRules.Proofs.Ruler.Address
import AlertRules.Proofs.Ruler.Cell
import AlertRules.Proofs.Sync.Run
import AlertRules.Proofs.Sync.Verify

namespace AlertRules

open Ruler (serveCell)

/-- The group that is built for a definition, if there is one, can be read back from its
document. -/
def Definition.IsLegible (d : Definition) : Prop :=
  ∀ g, d.group = .ok g → RuleGroup.read? g.write = some g

instance (d : Definition) : Decidable d.IsLegible :=
  match h : d.group with
  | .ok g => decidable_of_iff (RuleGroup.read? g.write = some g) (by simp [Definition.IsLegible, h])
  | .error _ => isTrue (by simp [Definition.IsLegible, h])

/-- No definition is illegible, so a condition that definitions be legible excludes none. -/
theorem Definition.isLegible (d : Definition) : d.IsLegible := fun g _ => g.read?_write

theorem Rule.Agrees.refl (r : Rule) : r.Agrees r := ⟨rfl, rfl, rfl, rfl, rfl⟩

/-- A built group is confirmed by its own document. -/
theorem confirms_own_document {d : Definition} {g : RuleGroup} (h : d.group = .ok g)
    (hd : d.IsLegible) : Confirms g (.ok ⟨200, g.write⟩) := by
  obtain ⟨-, ⟨rule, hrules⟩, htimed⟩ := Definition.group_shape h
  exact ⟨_, g, rule, rule, rfl, rfl, hd g h, htimed, hrules, hrules, rfl, rfl, .refl rule⟩

namespace Client

variable {c : Client} {d : Definition}

/-! ### Where the requests go -/

theorem key?_pushRequest (hc : IsPiece c.nameSpace) (hd : d.IsLegible) {g : RuleGroup}
    (h : d.group = .ok g) :
    (c.pushRequest g d.tenant).demand.key? = some (c.key d.tenant d.id.render) := by
  rw [demand_pushRequest hc (hd g h), ← (Definition.group_shape h).1]
  rfl

theorem key?_fetchRequest (hc : IsPiece c.nameSpace) (tenant : String) (id : DefinitionId) :
    (c.fetchRequest id.render tenant).demand.key? = some (c.key tenant id.render) := by
  rw [demand_fetchRequest hc id.isPiece_render]
  rfl

/-- An update is about the key of its definition. -/
theorem update_at (hc : IsPiece c.nameSpace) (hd : d.IsLegible) :
    (c.update d).At (c.key d.tenant d.id.render) := by
  cases h : d.group with
  | error e =>
    rw [c.update_of_unbuilt h]
    exact .done _
  | ok g =>
    rw [c.update_of_built h]
    refine (Exchange.At.ask (key?_pushRequest hc hd h) _).bind ?_
    intro result
    cases result with
    | error e => exact .done _
    | ok =>
      -- what is read back is the built group, which has the name of the definition
      have hname : g.name = d.id.render := (Definition.group_shape h).1
      apply Exchange.At.map
      apply Exchange.At.ask
      rw [hname]
      exact key?_fetchRequest hc d.tenant d.id

/-- A removal is about the key of the definition that it removes. -/
theorem remove_at (hc : IsPiece c.nameSpace) (tenant : String) (id : DefinitionId) :
    (c.remove id tenant).At (c.key tenant id.render) := by
  apply Exchange.At.ask
  rw [demand_deleteRequest hc id.isPiece_render]
  rfl

/-! ### What they come to -/

/-- An update for which a group is built succeeds with it and leaves it behind. -/
theorem update_cell (hc : IsPiece c.nameSpace) (hd : d.IsLegible) {g : RuleGroup}
    (h : d.group = .ok g) (cell : Option RuleGroup) :
    (c.update d).run serveCell cell = (.ok g, some g) := by
  have hname : g.name = d.id.render := (Definition.group_shape h).1
  have hpush : serveCell cell (c.pushRequest g d.tenant) = (.ok .accepted, some g) := by
    rw [serveCell, demand_pushRequest hc (hd g h)]
    rfl
  have hfetch : serveCell (some g) (c.fetchRequest g.name d.tenant) =
      (.ok ⟨200, g.write⟩, some g) := by
    rw [serveCell, hname, demand_fetchRequest hc d.id.isPiece_render]
    rfl
  have hpushed : pushed g.name (serveCell cell (c.pushRequest g d.tenant)).1 = .ok () := by
    rw [hpush]
    rfl
  have hverified : verified g (.ok ⟨200, g.write⟩) = .ok () :=
    verified_of_confirms (Definition.group_shape h).2.2 (confirms_own_document h hd)
  rw [c.run_update_of_pushed serveCell h cell hpushed, hpush, hfetch]
  simp only [hverified]
  rfl

/-- A removal succeeds and leaves nothing behind, whether there was a group or not. -/
theorem remove_cell (hc : IsPiece c.nameSpace) (tenant : String) (id : DefinitionId)
    (cell : Option RuleGroup) : (c.remove id tenant).run serveCell cell = (.ok (), none) := by
  have hdelete := demand_deleteRequest hc id.isPiece_render tenant
  rw [c.run_remove, serveCell, hdelete]
  cases cell <;> rfl

end Client

/-! ### Operations -/

/-- What a client can be told to do for one definition. -/
inductive Operation
  | update (d : Definition)
  | remove (tenant : String) (id : DefinitionId)

namespace Operation

def tenant : Operation → String
  | update d => d.tenant
  | remove tenant _ => tenant

def id : Operation → DefinitionId
  | update d => d.id
  | remove _ id => id

/-- Whatever is pushed can be read back. -/
def IsLegible : Operation → Prop
  | update d => d.IsLegible
  | remove _ _ => True

/-- The result that an operation has. -/
def result : Operation → Except SyncError SyncOutcome
  | update d => d.group.map .updated
  | remove _ id => .ok (.removed id.render)

/-- What is left where there was `cell`, by the result of what was done there. -/
def leftBy (cell : Option RuleGroup) : Except SyncError SyncOutcome → Option RuleGroup
  | .ok (.updated g) => some g
  | .ok (.removed _) => none
  | .error _ => cell

/-- What an operation leaves under its key, if `cell` is what was there. -/
def leaves (cell : Option RuleGroup) : Operation → Option RuleGroup
  | update d => match d.group with
    | .ok g => some g
    | .error _ => cell
  | remove _ _ => none

/-- What an operation leaves behind is decided by its result. -/
theorem leaves_eq (op : Operation) (cell : Option RuleGroup) :
    op.leaves cell = leftBy cell op.result := by
  cases op with
  | remove => rfl
  | update d =>
    rw [leaves, result]
    cases d.group <;> rfl

/-- What a sync comes down to, by the row that it finds. -/
def ofRow (tenant : String) (id : DefinitionId) : Option Definition → Operation
  | some d => update d
  | none => remove tenant id

end Operation

namespace Client

variable {c : Client}

/-- The exchange by which a client does what it is told. -/
def carryOut (c : Client) : Operation → Exchange (Except SyncError SyncOutcome)
  | .update d => (c.update d).map fun result => result.map .updated
  | .remove tenant id => (c.remove id tenant).map fun result => result.map fun _ =>
      .removed id.render

/-- Where a ruler keeps the group that an operation of a client is about. -/
def keyOf (c : Client) (op : Operation) : GroupKey := c.key op.tenant op.id.render

theorem carryOut_at (hc : IsPiece c.nameSpace) {op : Operation} (hop : op.IsLegible) :
    (c.carryOut op).At (c.keyOf op) := by
  cases op with
  | update d => exact (update_at hc hop).map _
  | remove tenant id => exact (remove_at hc tenant id).map _

theorem carryOut_cell (hc : IsPiece c.nameSpace) {op : Operation} (hop : op.IsLegible)
    (cell : Option RuleGroup) :
    (c.carryOut op).run serveCell cell = (op.result, op.leaves cell) := by
  cases op with
  | remove tenant id => rw [carryOut, Exchange.run_map, remove_cell hc]; rfl
  | update d =>
    rw [carryOut, Exchange.run_map, Operation.result, Operation.leaves]
    cases h : d.group with
    | ok g => rw [update_cell hc hop h]
    | error e => rw [c.run_update_of_unbuilt serveCell h]

/-- With a plain ruler an operation has its result, and changes its own key only. -/
theorem carryOut_ruler (hc : IsPiece c.nameSpace) {op : Operation} (hop : op.IsLegible)
    {r : Ruler} (hr : r.IsPlain) :
    ((c.carryOut op).run Ruler.serve r).1 = op.result ∧
      r.Becomes (c.keyOf op) (op.leaves (r.group? (c.keyOf op)))
        ((c.carryOut op).run Ruler.serve r).2 := by
  have hrun := Exchange.run_cell (carryOut_at hc hop) hr
  rw [carryOut_cell hc hop] at hrun
  exact hrun

theorem sync_eq_carryOut (c : Client) (definitions : Definitions) (tenant : String)
    (id : DefinitionId) :
    c.sync definitions tenant id =
      c.carryOut (.ofRow tenant id (definitions.get? tenant id)) := by
  rw [sync]
  cases definitions.get? tenant id <;> rfl

end Client

end AlertRules
