/-
AlertRules/Rule.lean

Alerting rules and the groups in which a ruler keeps them.
-/
import AlertRules.Labels

namespace AlertRules

/-- An alerting rule.  `pending` is how long its expression has to hold before it
fires, as a text; an empty text means at once. -/
@[ext] structure Rule where
  alert : String
  expr : String
  pending : String := ""
  labels : Labels := .empty
  annotations : Labels := .empty
  deriving DecidableEq, Repr, Inhabited

/-- A named group of rules that are evaluated together at an interval. -/
@[ext] structure RuleGroup where
  name : String
  interval : String := ""
  rules : List Rule := []
  deriving DecidableEq, Repr, Inhabited

/-- The label that shows the threshold of a rule. -/
def thresholdLabel : String := "threshold"

/-- The label that shows the duration of a rule. -/
def durationLabel : String := "duration"

namespace RuleGroup

/-- The group of one rule. -/
def single (name interval : String) (rule : Rule) : RuleGroup := ⟨name, interval, [rule]⟩

/-- The rule of a group that has exactly one. -/
def soleRule? (g : RuleGroup) : Option Rule :=
  match g.rules with
  | [rule] => some rule
  | _ => none

end RuleGroup

end AlertRules
