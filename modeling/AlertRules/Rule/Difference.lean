/-
AlertRules/Rule/Difference.lean

Differences between two groups, field by field.  Rules are compared in pairs by
their place; maps are compared key by key, first the keys that are expected.
-/
import AlertRules.Rule
import AlertRules.Text.Decimal
import AlertRules.Text.Quoted

namespace AlertRules

/-- A place in a group that holds a text. -/
inductive Field
  | name
  | interval
  | alert (rule : Nat)
  | expr (rule : Nat)
  | pending (rule : Nat)
  | labelAt (rule : Nat) (key : String)
  | annotationAt (rule : Nat) (key : String)
  deriving DecidableEq, Repr

namespace Field

def ofRule (rule : Nat) (name : String) : String :=
  "rules[" ++ Text.Decimal.text rule ++ "]." ++ name

def path : Field → String
  | name => "name"
  | interval => "interval"
  | alert rule => ofRule rule "alert"
  | expr rule => ofRule rule "expr"
  | pending rule => ofRule rule "for"
  | labelAt rule key => ofRule rule ("labels." ++ key)
  | annotationAt rule key => ofRule rule ("annotations." ++ key)

end Field

inductive Difference
  | changed (field : Field) (expected actual : String)
  | missing (field : Field) (expected : String)
  | unexpected (field : Field) (actual : String)
  | ruleCount (expected actual : Nat)
  deriving DecidableEq, Repr

namespace Difference

def message : Difference → String
  | changed field expected actual =>
    field.path ++ ": expected " ++ Text.quote expected ++ ", got " ++ Text.quote actual
  | missing field expected =>
    field.path ++ ": missing (expected " ++ Text.quote expected ++ ")"
  | unexpected field actual => field.path ++ ": unexpected " ++ Text.quote actual
  | ruleCount expected actual =>
    "rules: expected " ++ Text.Decimal.text expected ++ " rule(s), got " ++
      Text.Decimal.text actual

/-! ### Comparison -/

def ofTexts (field : Field) (expected actual : String) : List Difference :=
  if expected = actual then [] else [.changed field expected actual]

def ofCounts (expected actual : Nat) : List Difference :=
  if expected = actual then [] else [.ruleCount expected actual]

/-- What becomes of an expected entry. -/
def ofExpected (field : Field) (expected : String) : Option String → List Difference
  | none => [.missing field expected]
  | some actual => ofTexts field expected actual

def ofLabels (field : String → Field) (expected actual : Labels) : List Difference :=
  (expected.entries.flatMap fun e => ofExpected (field e.1) e.2 (actual.get? e.1)) ++
  (actual.entries.filter fun e => (expected.get? e.1).isNone).map fun e =>
    .unexpected (field e.1) e.2

def ofRules (rule : Nat) (expected actual : Rule) : List Difference :=
  ofTexts (.alert rule) expected.alert actual.alert ++
  ofTexts (.expr rule) expected.expr actual.expr ++
  ofTexts (.pending rule) expected.pending actual.pending ++
  ofLabels (.labelAt rule) expected.labels actual.labels ++
  ofLabels (.annotationAt rule) expected.annotations actual.annotations

/-- The differences of the pairs of rules from a place on. -/
def ofPairs (rule : Nat) : List Rule → List Rule → List Difference
  | e :: es, a :: as => ofRules rule e a ++ ofPairs (rule + 1) es as
  | _, _ => []

end Difference

/-- The differences between the expected and the actual group. -/
def RuleGroup.differences (expected actual : RuleGroup) : List Difference :=
  Difference.ofTexts .name expected.name actual.name ++
  Difference.ofTexts .interval expected.interval actual.interval ++
  Difference.ofCounts expected.rules.length actual.rules.length ++
  Difference.ofPairs 0 expected.rules actual.rules

end AlertRules
