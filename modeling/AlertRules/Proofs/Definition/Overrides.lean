/-
AlertRules/Proofs/Definition/Overrides.lean

Overrides are labels.  `Overrides.Sets` says, through the look-ups alone, that one rule is another
with its parameter labels set, and there is one such rule (`Overrides.sets_iff`).  Everything that
a build reads of the threshold and the duration it reads from the labels, so a template with
overrides is built as the template that has them as its labels is built without
(`Rule.overrides_are_labels`): with the same rule, or with the same failure.

The third parameter of overrides is no label.  Whether a definition is disabled decides nothing
but the clause behind the expression (`Rule.build_disabled`).
-/
import AlertRules.Proofs.Definition.Build

namespace AlertRules

open Outcome

/-! ### Labels that overrides set -/

/-- The second rule is the first with its labels set to what the overrides say. -/
structure Overrides.Sets (o : Overrides) (r s : Rule) : Prop where
  alert : s.alert = r.alert
  expr : s.expr = r.expr
  pending : s.pending = r.pending
  labels : ∀ key, s.labels.get? key = (o.label? key).or (r.labels.get? key)
  annotations : s.annotations = r.annotations

theorem Overrides.sets_iff {o : Overrides} {r s : Rule} : o.Sets r s ↔ s = o.apply r := by
  constructor
  · intro h
    have hlabels : s.labels = (o.apply r).labels := by
      apply Labels.ext_get?
      intro key
      rw [h.labels key, o.get?_apply]
    exact Rule.ext h.alert h.expr h.pending hlabels h.annotations
  · rintro rfl
    exact ⟨rfl, rfl, rfl, o.get?_apply r, rfl⟩

/-- A label that stands for no parameter is not touched. -/
theorem Overrides.label?_eq_none (o : Overrides) {key : String} (hthreshold : key ≠ "threshold")
    (hduration : key ≠ "duration") : o.label? key = Option.none := by
  rw [Overrides.label?, if_neg hthreshold, if_neg hduration]

/-! ### Builds -/

namespace Rule

/-- Disabling a rule puts the clause behind its expression, once all its texts are resolved. -/
theorem resolve_disabled (r : Rule) : r.resolve true =
    (r.resolve false).map fun s => { s with expr := Query.disable s.expr } := by
  unfold resolve
  cases resolveExpr r.bindings r.expr with
  | error e => rfl
  | ok text =>
    cases resolvePending r.bindings r.pending with
    | error e => rfl
    | ok pending => rfl

theorem build_disabled (template : String) (o : Overrides) {enabled : Option Bool}
    (henabled : enabled ≠ some false) :
    build template { o with enabled := some false } =
      (build template { o with enabled }).map fun s =>
        { s with expr := Query.disable s.expr } := by
  have hnot : Overrides.isDisabled { o with enabled } = false := decide_eq_false henabled
  cases hdecode : decode template with
  | error e =>
    rw [build, build, hdecode]
    rfl
  | ok r =>
    rw [build_of_decode hdecode, build_of_decode hdecode, hnot]
    exact resolve_disabled _

/-- What the labels of the template say need not be said by overrides, and the other way round:
with the parameters as overrides, a template is built as one that has them as labels is built
without.  Of the rule that is built, all but the two texts that are resolved is the rule with
those labels.  A disabled rule is the enabled one with the clause behind its expression, and is
refused for what the enabled one is refused for. -/
theorem overrides_are_labels {template labelled : String} {o : Overrides} {r s : Rule}
    (htemplate : decode template = .ok r) (hlabelled : decode labelled = .ok s)
    (h : o.Sets r s) :
    build template o = build labelled { o with threshold := none, seconds := none } ∧
    (∀ built, build template o = .ok built →
      built.alert = r.alert ∧ built.annotations = r.annotations ∧
      (∀ key, key ≠ "threshold" → key ≠ "duration" →
        built.labels.get? key = r.labels.get? key) ∧
      built.labels.get? "threshold" = s.labels.get? "threshold" ∧
      built.labels.get? "duration" = s.labels.get? "duration") ∧
    ∀ enabled : Option Bool, enabled ≠ some false →
      (∃ e, build template { o with enabled := some false } = .error e ∧
        build template { o with enabled } = .error e) ∨
      ∃ built, build template { o with enabled } = .ok built ∧
        build template { o with enabled := some false } =
          .ok { built with expr := built.expr ++ " and false" } := by
  -- both builds resolve one rule, whichever side the labels came from
  obtain rfl := Overrides.sets_iff.1 h
  refine ⟨?_, ?_, ?_⟩
  · rw [build_of_decode htemplate, build_of_decode hlabelled]
    rfl
  · intro built hbuilt
    obtain ⟨halert, hlabels, hannotations⟩ := build_keeps htemplate hbuilt
    rw [hlabels]
    refine ⟨halert, hannotations, ?_, rfl, rfl⟩
    intro key hthreshold hduration
    rw [o.get?_apply, o.label?_eq_none hthreshold hduration, Option.none_or]
  · intro enabled henabled
    rw [build_disabled template o henabled]
    cases build template { o with enabled } with
    | error e => exact .inl ⟨e, rfl, rfl⟩
    | ok built => exact .inr ⟨built, rfl, rfl⟩

/-- A template that has one of its parameters as a label already, and one label of its own. -/
def parametrized : Rule where
  alert := "A"
  expr := "up > [[ .Threshold ]]"
  pending := "[[ .Duration ]]"
  labels := (Labels.empty.insert "duration" "5m").insert "severity" "page"

/-- Overrides win over the label that is there. -/
theorem overrides_are_labels_both :
    let o : Overrides := { threshold := some (-3), seconds := some 90 }
    let template := "alert: A\nexpr: up > [[ .Threshold ]]\nfor: '[[ .Duration ]]'\n" ++
      "labels:\n  severity: page\n  duration: 5m\n"
    let labelled := "alert: A\nexpr: up > [[ .Threshold ]]\nfor: '[[ .Duration ]]'\n" ++
      "labels:\n  severity: page\n  duration: 1m30s\n  threshold: '-3'\n"
    let s := { parametrized with
      labels := (parametrized.labels.insert "duration" "1m30s").insert "threshold" "-3" }
    let built := { s with expr := "up > -3", pending := "1m30s" }
    decode template = .ok parametrized ∧ decode labelled = .ok s ∧ o.Sets parametrized s ∧
      build template o = build labelled {} ∧ build template o = .ok built ∧
      build template { o with enabled := some false } =
        .ok { built with expr := "up > -3 and false" } := by
  intro o template labelled s built
  have htemplate : decode template = .ok parametrized := by decide +kernel
  have hlabelled : decode labelled = .ok s := by decide +kernel
  have hsets : o.Sets parametrized s := Overrides.sets_iff.2 (by decide +kernel)
  have hbuilt : build template o = .ok built := by
    rw [build_of_decode htemplate]
    decide +kernel
  obtain ⟨hsame, -, hflag⟩ := overrides_are_labels htemplate hlabelled hsets
  refine ⟨htemplate, hlabelled, hsets, hsame, hbuilt, ?_⟩
  rcases hflag none nofun with ⟨e, -, he⟩ | ⟨enabled, henabled, hdisabled⟩
  · cases hbuilt.symm.trans he
  · cases hbuilt.symm.trans henabled
    exact hdisabled

end Rule

end AlertRules
