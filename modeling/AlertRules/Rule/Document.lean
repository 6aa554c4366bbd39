/-
AlertRules/Rule/Document.lean

Rules and groups as YAML documents.  Writing puts the fields in a fixed order and
the entries of maps in the order of their keys, and leaves out what is empty.
Reading takes the fields in any order, but each at most once and no others;
`alert`, `expr` and `name` have to be there.  Every scalar is read as the text that
it was written with, whatever its tag, and where a map or a list is wanted an empty
place is an empty one.
-/
import AlertRules.Rule
import AlertRules.Yaml.Node
import AlertRules.Yaml.Scalar

namespace AlertRules

namespace Yaml.Node

/-! ### Views of a node -/

/-- The text of a scalar. -/
def text? (anchors : List (Nat × Node)) (n : Node) : Option String :=
  match n.resolve anchors with
  | some (scalar _ _ text) => some (String.ofList text)
  | _ => none

/-- The items of a sequence. -/
def items? (anchors : List (Nat × Node)) (n : Node) : Option (List Node) :=
  match n.resolve anchors with
  | some (sequence _ items) => some items
  | some (scalar _ true []) => some []
  | _ => none

/-- The entries of a mapping, its keys as texts. -/
def fields? (anchors : List (Nat × Node)) (n : Node) : Option (List (String × Node)) :=
  match n.resolve anchors with
  | some (mapping _ entries) =>
    entries.mapM fun (k, v) => (k.text? anchors).map fun key => (key, v)
  | some (scalar _ true []) => some []
  | _ => none

/-- The entries of a mapping whose keys are distinct and among those allowed. -/
def record? (anchors : List (Nat × Node)) (allowed : List String) (n : Node) :
    Option (List (String × Node)) :=
  (n.fields? anchors).filter fun fs =>
    (fs.map Prod.fst).Nodup && fs.all fun f => allowed.contains f.1

/-- The texts of a mapping; a key that occurs again replaces the entry before. -/
def labels? (anchors : List (Nat × Node)) (n : Node) : Option Labels := do
  let fs ← n.fields? anchors
  let es ← fs.mapM fun (k, v) => (v.text? anchors).map fun value => (k, value)
  return Labels.ofList es

end Yaml.Node

open Yaml

/-- The value of a field, or a default where the field is missing. -/
def readField? {α : Type} (fields : List (String × Node)) (name : String) (default : α)
    (read? : Node → Option α) : Option α :=
  match fields.lookup name with
  | none => some default
  | some n => read? n

/-! ### Rules -/

namespace Rule

def fieldNames : List String := ["alert", "expr", "for", "labels", "annotations"]

def ofNode? (anchors : List (Nat × Node)) (n : Node) : Option Rule := do
  let fs ← n.record? anchors fieldNames
  let alert ← (← fs.lookup "alert").text? anchors
  let expr ← (← fs.lookup "expr").text? anchors
  let pending ← readField? fs "for" "" (Node.text? anchors)
  let labels ← readField? fs "labels" .empty (Node.labels? anchors)
  let annotations ← readField? fs "annotations" .empty (Node.labels? anchors)
  return ⟨alert, expr, pending, labels, annotations⟩

/-- Reads a rule from a document. -/
def read? (text : String) : Option Rule := do
  let d ← Document.read? text
  ofNode? d.anchors d.root

/-- A map as an entry of a mapping at a column, one line for each of its entries. -/
def writeLabels (column : Nat) (name : String) (m : Labels) : List (List Char) :=
  if m.isEmpty then []
  else [name.toList ++ [':', '\n'] ++ m.entries.flatMap fun e =>
    List.replicate (column + 2) ' ' ++ Scalar.writeEntry (column + 2) e.1.toList e.2.toList]

/-- The entries of the mapping of a rule at a column, without their indentation. -/
def writeFields (column : Nat) (r : Rule) : List (List Char) :=
  [Scalar.writeEntry column "alert".toList r.alert.toList,
    Scalar.writeEntry column "expr".toList r.expr.toList] ++
  (if r.pending = "" then []
    else [Scalar.writeEntry column "for".toList r.pending.toList]) ++
  writeLabels column "labels" r.labels ++ writeLabels column "annotations" r.annotations

/-- Writes a rule as a document. -/
def write (r : Rule) : String := String.ofList (r.writeFields 0).flatten

end Rule

/-! ### Groups -/

namespace RuleGroup

def fieldNames : List String := ["name", "interval", "rules"]

def ofNode? (anchors : List (Nat × Node)) (n : Node) : Option RuleGroup := do
  let fs ← n.record? anchors fieldNames
  let name ← (← fs.lookup "name").text? anchors
  let interval ← readField? fs "interval" "" (Node.text? anchors)
  let rules ← readField? fs "rules" [] fun n => do
    (← n.items? anchors).mapM (Rule.ofNode? anchors)
  return ⟨name, interval, rules⟩

/-- Reads a group from a document. -/
def read? (text : String) : Option RuleGroup := do
  let d ← Document.read? text
  ofNode? d.anchors d.root

/-- A rule as an item of a sequence: a hyphen stands in the indentation of its first
line. -/
def writeItem (r : Rule) : List Char :=
  match r.writeFields 2 with
  | [] => []
  | first :: more => ['-', ' '] ++ first ++ more.flatMap fun line => [' ', ' '] ++ line

/-- Writes a group as a document. -/
def write (g : RuleGroup) : String :=
  String.ofList <|
    Scalar.writeEntry 0 "name".toList g.name.toList ++
    (if g.interval = "" then []
      else Scalar.writeEntry 0 "interval".toList g.interval.toList) ++
    (if g.rules.isEmpty then "rules: []\n".toList
      else "rules:\n".toList ++ g.rules.flatMap writeItem)

end RuleGroup

end AlertRules
