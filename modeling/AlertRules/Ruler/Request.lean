/-
AlertRules/Ruler/Request.lean

Requests to a ruler and its responses.
-/

namespace AlertRules

structure Request where
  method : String
  path : String
  headers : List (String × String) := []
  body : Option String := none
  deriving DecidableEq, Repr, Inhabited

structure Response where
  status : Nat
  body : String
  deriving DecidableEq, Repr, Inhabited

/-- Whether two header names are the same; only ASCII letters lose their case. -/
def sameHeader (a b : String) : Bool :=
  a.toList.map Char.toLower == b.toList.map Char.toLower

/-- The value of the first header of a name. -/
def Request.header? (r : Request) (name : String) : Option String :=
  (r.headers.find? fun h => sameHeader h.1 name).map Prod.snd

def Response.isSuccess (r : Response) : Bool := 200 ≤ r.status && r.status < 300

/-! ### The interface of a ruler -/

/-- Where the paths of a ruler's groups begin. -/
def rulesPath : String := "/prometheus/config/v1/rules"

/-- The header that says for which organisation a request is. -/
def orgHeader : String := "X-Scope-OrgID"

end AlertRules
