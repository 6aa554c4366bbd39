/-
AlertRules/Definition/Build.lean

From a definition to the group that a ruler keeps for it.  Overrides are written
into the labels of the template's rule first, and the texts of the rule are then
resolved from its labels, so that labels and texts agree.  The group has this one
rule and is named by the definition's identifier.

The stages are functions of their own: `Overrides.apply` on the rule that the
template decodes to, `Rule.resolve` for its texts, `RuleGroup.single` for the
group.
-/
import AlertRules.Definition
import AlertRules.Duration
import AlertRules.Placeholder
import AlertRules.Query
import AlertRules.Rule.Document

namespace AlertRules

/-- Why no rule comes out of a template. -/
inductive BuildError
  | template (reason : String)
  | placeholder (cause : Placeholder.Error)
  | expression (expr reason : String)
  | pending (value : String) (cause : Duration.Error)
  deriving DecidableEq, Repr

namespace BuildError

def message : BuildError → String
  | template reason => "template decode error: " ++ reason
  | placeholder cause => cause.message
  | expression expr reason => "invalid expression " ++ Text.quote expr ++ ": " ++ reason
  | pending value cause => "invalid for duration " ++ Text.quote value ++ ": " ++ cause.message

def noRule : String := "not a rule document"

def noQuery : String := "not a query"

end BuildError

/-! ### Labels -/

/-- Sets a label where there is a value for it. -/
def Labels.insert? (m : Labels) (key : String) : Option String → Labels
  | none => m
  | some value => m.insert key value

/-- Writes the overrides into the labels of a rule. -/
def Overrides.apply (o : Overrides) (r : Rule) : Rule :=
  { r with
    labels := (r.labels.insert? thresholdLabel
        (o.threshold.map fun n => Text.Decimal.intText n.toInt)).insert? durationLabel
      (o.seconds.map Duration.renderSeconds) }

namespace Rule

/-- The values that the labels of a rule give to placeholders. -/
def bindings (r : Rule) : Placeholder.Bindings :=
  ⟨r.labels.get? thresholdLabel, r.labels.get? durationLabel⟩

/-! ### Texts -/

def fill (b : Placeholder.Bindings) (text : String) : Except BuildError String :=
  (Placeholder.substitute b text).mapError .placeholder

/-- Fills in an expression, which has to be a query then. -/
def resolveExpr (b : Placeholder.Bindings) (expr : String) : Except BuildError String := do
  let text ← fill b expr
  if Query.isValid text then .ok text else .error (.expression text BuildError.noQuery)

/-- Resolves how long a rule is pending: a text with placeholders is filled in and
put into canonical form, any other is kept as it is but has to be a duration. -/
def resolvePending (b : Placeholder.Bindings) (value : String) : Except BuildError String :=
  if Text.isBlankText value then .ok ""
  else if Placeholder.hasPlaceholders value then do
    let text ← fill b value
    (Duration.canonicalize text).mapError (.pending text)
  else do
    let _ ← (Duration.parse value).mapError (.pending value)
    .ok value

/-- Resolves the texts of a rule from its labels. -/
def resolve (disabled : Bool) (r : Rule) : Except BuildError Rule := do
  let expr ← resolveExpr r.bindings r.expr
  let pending ← resolvePending r.bindings r.pending
  .ok { r with expr := if disabled then Query.disable expr else expr, pending }

/-- The rule of a template. -/
def decode (template : String) : Except BuildError Rule :=
  match read? template with
  | some r => .ok r
  | none => .error (.template BuildError.noRule)

/-- The rule of a template with overrides. -/
def build (template : String) (o : Overrides) : Except BuildError Rule := do
  let r ← decode template
  (o.apply r).resolve o.isDisabled

end Rule

/-! ### Groups -/

/-- The group in which the rule of a definition is kept. -/
def RuleGroup.ofRule (id : DefinitionId) (interval : UInt64) (r : Rule) : RuleGroup :=
  .single id.render (Duration.renderSeconds interval) r

/-- The group of a definition. -/
def Definition.build (d : Definition) : Except BuildError RuleGroup :=
  (Rule.build d.template d.overrides).map (.ofRule d.id d.interval)

end AlertRules
