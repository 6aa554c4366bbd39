/-
AlertRules/Rule/Normal.lean

Groups in normal form: every duration in canonical spelling, and none where it is
blank or zero.  A ruler may answer with another spelling of a duration, or leave
out a zero, so groups are compared in this form.
-/
import AlertRules.Duration
import AlertRules.Rule

namespace AlertRules

/-- A duration of a group that cannot be read, with what is wrong with it. -/
structure BadDuration where
  value : String
  cause : Duration.Error
  deriving DecidableEq, Repr

def BadDuration.message (b : BadDuration) : String :=
  Text.quote b.value ++ ": " ++ b.cause.message

def normalizeDuration (value : String) : Except BadDuration String :=
  (Duration.normalize value).mapError (⟨value, ·⟩)

def Rule.normalize (r : Rule) : Except BadDuration Rule := do
  let pending ← normalizeDuration r.pending
  .ok { r with pending }

/-- The normal form of a group, or its first unreadable duration. -/
def RuleGroup.normalize (g : RuleGroup) : Except BadDuration RuleGroup := do
  let interval ← normalizeDuration g.interval
  let rules ← g.rules.mapM Rule.normalize
  .ok { g with interval, rules }

end AlertRules
