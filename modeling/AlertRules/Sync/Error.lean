/-
AlertRules/Sync/Error.lean

What can keep a definition from being brought to a ruler, and whether it may pass
by itself.
-/
import AlertRules.Definition.Build
import AlertRules.Rule.Normal

namespace AlertRules

/-- What is asked of a ruler. -/
inductive Call
  | push
  | fetch
  | delete
  deriving DecidableEq, Repr

def Call.name : Call → String
  | push => "push"
  | fetch => "fetch"
  | delete => "delete"

/-- Why a fetched group cannot be compared. -/
inductive FetchFault
  | document (reason : String)
  | duration (bad : BadDuration)
  deriving DecidableEq, Repr

def FetchFault.message : FetchFault → String
  | document reason => reason
  | duration bad => bad.message

inductive SyncError
  | store (cause : Definition.Error)
  | build (cause : BuildError)
  | failed (call : Call) (group : String) (status : Option Nat) (detail : String)
  | undecodable (fault : FetchFault)
  | ruleCount (group : String) (count : Nat)
  | mismatch (group : String) (expected actual : RuleGroup) (differences : List String)
  | deadline (group : String)
  deriving DecidableEq, Repr

namespace SyncError

def statusText : Option Nat → String
  | some status => "status " ++ Text.Decimal.text status
  | none => "no response"

def message : SyncError → String
  | store cause => "definition store error: " ++ cause.message
  | build cause => cause.message
  | failed call group status detail =>
    call.name ++ " of group " ++ group ++ " failed (" ++ statusText status ++ "): " ++ detail
  | undecodable fault => "fetched group decode error: " ++ fault.message
  | ruleCount group count =>
    "group " ++ group ++ " holds " ++ Text.Decimal.text count ++ " rules, expected exactly one"
  | mismatch group _ _ differences =>
    "group " ++ group ++ " does not match what was pushed: " ++ "; ".intercalate differences
  | deadline group => "sync of group " ++ group ++ " did not finish before the deadline"

/-- Whether a later attempt may succeed although the definition stays the same. -/
def isRetryable : SyncError → Bool
  | failed _ _ none _ => true
  | failed _ _ (some status) _ => status == 429 || 500 ≤ status
  | mismatch .. => true
  | deadline _ => true
  | store _ => false
  | build _ => false
  | undecodable _ => false
  | ruleCount .. => false

end SyncError

end AlertRules
