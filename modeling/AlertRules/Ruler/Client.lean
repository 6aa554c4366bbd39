/-
AlertRules/Ruler/Client.lean

What a client asks of a ruler, in one namespace and on behalf of a tenant.  Every
call is one request and a judgement of its answer; the judgements are functions of
their own.
-/
import AlertRules.Ruler.Exchange
import AlertRules.Rule.Difference
import AlertRules.Sync.Error
import AlertRules.Tenancy

namespace AlertRules

structure Client where
  nameSpace : String
  tenancy : Tenancy
  deriving DecidableEq, Repr, Inhabited

/-! ### Judgements -/

/-- The body of a successful response. -/
def Answer.body (call : Call) (group : String) : Answer → Except SyncError String
  | .error e => .error (.failed call group none e.message)
  | .ok response =>
    if response.isSuccess then .ok response.body
    else .error (.failed call group (some response.status) response.body)

def pushed (group : String) (answer : Answer) : Except SyncError Unit :=
  (answer.body .push group).map fun _ => ()

/-- What is wrong with a fetched body that no group can be read from. -/
def noGroupDocument : String := "not a group document"

def fetched (name : String) (answer : Answer) : Except SyncError RuleGroup := do
  let body ← answer.body .fetch name
  match RuleGroup.read? body with
  | some group => .ok group
  | none => .error (.undecodable (.document noGroupDocument))

/-- A group that is not there counts as deleted. -/
def deleted (name : String) : Answer → Except SyncError Unit
  | .ok ⟨404, _⟩ => .ok ()
  | answer => (answer.body .delete name).map fun _ => ()

/-- Compares a fetched group with the one that it should be, in normal form. -/
def compared (group actual : RuleGroup) : Except SyncError Unit := do
  if actual.rules.length ≠ 1 then .error (.ruleCount group.name actual.rules.length)
  let expected ← group.normalize.mapError fun bad => .build (.pending bad.value bad.cause)
  let actual ← actual.normalize.mapError fun bad => .undecodable (.duration bad)
  match expected.differences actual with
  | [] => .ok ()
  | differences =>
    .error (.mismatch group.name expected actual (differences.map Difference.message))

def verified (group : RuleGroup) (answer : Answer) : Except SyncError Unit := do
  let actual ← fetched group.name answer
  compared group actual

/-! ### Calls -/

namespace Client

/-- The path of the namespace. -/
def path (c : Client) : String := rulesPath ++ "/" ++ c.nameSpace

def groupPath (c : Client) (name : String) : String := c.path ++ "/" ++ name

def headers (c : Client) (tenant : String) : List (String × String) :=
  [(orgHeader, c.tenancy.orgId tenant)]

def pushRequest (c : Client) (group : RuleGroup) (tenant : String) : Request :=
  ⟨"POST", c.path, c.headers tenant, some group.write⟩

def fetchRequest (c : Client) (name tenant : String) : Request :=
  ⟨"GET", c.groupPath name, c.headers tenant, none⟩

def deleteRequest (c : Client) (name tenant : String) : Request :=
  ⟨"DELETE", c.groupPath name, c.headers tenant, none⟩

/-- Creates or replaces a group. -/
def push (c : Client) (group : RuleGroup) (tenant : String) : Exchange (Except SyncError Unit) :=
  .ask (c.pushRequest group tenant) (pushed group.name)

/-- Reads a group back. -/
def fetch (c : Client) (name tenant : String) : Exchange (Except SyncError RuleGroup) :=
  .ask (c.fetchRequest name tenant) (fetched name)

/-- Fetches a group and compares it with what it should be. -/
def verify (c : Client) (group : RuleGroup) (tenant : String) :
    Exchange (Except SyncError Unit) :=
  .ask (c.fetchRequest group.name tenant) (verified group)

/-- Deletes a group; one that is gone already counts as deleted. -/
def delete (c : Client) (name tenant : String) : Exchange (Except SyncError Unit) :=
  .ask (c.deleteRequest name tenant) (deleted name)

end Client

end AlertRules
