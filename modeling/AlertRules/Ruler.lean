/-
AlertRules/Ruler.lean

A ruler that keeps its groups in memory.  A group is kept under the organisation
that sent it, the namespace of the path and its own name.

What a request asks for is decided without looking at the ruler (`Request.demand`);
the ruler then carries it out (`Ruler.perform`).  Two things can be set for tests: a
response that is given to every request of a method, whatever it asks for, and a
function through which groups pass on their way out.
-/
import AlertRules.Ruler.Request
import AlertRules.Rule.Document
import AlertRules.Table

namespace AlertRules

structure GroupKey where
  org : String
  nameSpace : String
  name : String
  deriving DecidableEq, Repr, Inhabited

/-! ### Demands -/

/-- What a request asks for. -/
inductive Demand
  | put (org nameSpace : String) (group : RuleGroup)
  | get (key : GroupKey)
  | delete (key : GroupKey)
  | refused (response : Response)
  deriving DecidableEq, Repr

/-- The pieces of a path between its slashes. -/
def splitSlashes : List Char → List (List Char)
  | [] => [[]]
  | c :: r =>
    if c = '/' then [] :: splitSlashes r
    else match splitSlashes r with
      | [] => [[c]]
      | piece :: more => (c :: piece) :: more

/-- What follows the common beginning of all paths: its pieces that are not empty. -/
def pathPieces? (path : String) : Option (List String) :=
  let start := rulesPath.toList
  let cs := path.toList
  if start.isPrefixOf cs then
    some (((splitSlashes (cs.drop start.length)).filter fun piece => !piece.isEmpty).map
      String.ofList)
  else none

namespace Response

def accepted : Response := ⟨202, ""⟩

def noOrg : Response := ⟨401, "no org id"⟩

def unknownPath : Response := ⟨404, "unknown path"⟩

def noGroup : Response := ⟨404, "group does not exist"⟩

def notAllowed : Response := ⟨405, "method not allowed"⟩

def unreadable : Response := ⟨400, "not a group document"⟩

end Response

/-- What a request of an organisation asks for, by its method and path. -/
def Request.demandOf (r : Request) (org : String) (pieces : List String) : Demand :=
  match r.method, pieces with
  | "POST", [nameSpace] =>
    match RuleGroup.read? (r.body.getD "") with
    | some group => .put org nameSpace group
    | none => .refused .unreadable
  | "GET", [nameSpace, name] => .get ⟨org, nameSpace, name⟩
  | "DELETE", [nameSpace, name] => .delete ⟨org, nameSpace, name⟩
  | _, _ => .refused .notAllowed

def Request.demand (r : Request) : Demand :=
  match r.header? orgHeader with
  | none => .refused .noOrg
  | some org =>
    match pathPieces? r.path with
    | none => .refused .unknownPath
    | some pieces => r.demandOf org pieces

/-! ### The ruler -/

structure Ruler where
  groups : Table GroupKey RuleGroup
  requests : List Request
  forced : Table String Response
  echo : RuleGroup → RuleGroup

namespace Ruler

/-- A ruler without groups. -/
def empty : Ruler := ⟨.empty, [], .empty, id⟩

instance : Inhabited Ruler := ⟨empty⟩

def group? (r : Ruler) (key : GroupKey) : Option RuleGroup := r.groups.get? key

def groupCount (r : Ruler) : Nat := r.groups.size

/-- Answers every request of a method with a response from now on. -/
def force (r : Ruler) (method : String) (response : Response) : Ruler :=
  { r with forced := r.forced.insert method response }

def clearForced (r : Ruler) : Ruler := { r with forced := .empty }

/-- Passes groups through a function when they are served; those kept stay as
they are. -/
def onEcho (r : Ruler) (f : RuleGroup → RuleGroup) : Ruler := { r with echo := f }

/-- Carries out a demand. -/
def perform (r : Ruler) : Demand → Response × Ruler
  | .refused response => (response, r)
  | .put org nameSpace group =>
    (.accepted, { r with groups := r.groups.insert ⟨org, nameSpace, group.name⟩ group })
  | .get key =>
    match r.group? key with
    | none => (.noGroup, r)
    | some group => (⟨200, (r.echo group).write⟩, r)
  | .delete key =>
    match r.group? key with
    | none => (.noGroup, r)
    | some _ => (.accepted, { r with groups := r.groups.erase key })

/-- Records a request and answers it. -/
def handle (r : Ruler) (request : Request) : Response × Ruler :=
  let r := { r with requests := r.requests ++ [request] }
  match r.forced.get? request.method with
  | some response => (response, r)
  | none => r.perform request.demand

end Ruler

end AlertRules
