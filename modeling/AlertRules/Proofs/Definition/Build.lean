/-
AlertRules/Proofs/Definition/Build.lean

What a built rule is made of (`Rule.exists_draft`), and what a built group is like, whatever
the template and the overrides: it is named by the identifier of its definition, has exactly
one rule, and every duration in it denotes a length (`Definition.group_shape`).  The last of
these holds because the interval is written by `renderSeconds`, and a rule that is pending
for a text that is no duration is not built.
-/
import AlertRules.Proofs.Labels
import AlertRules.Proofs.Outcome
import AlertRules.Proofs.Rule.Normal
import AlertRules.Sync

namespace AlertRules

open Outcome

/-! ### Labels -/

theorem Labels.get?_insert? (m : Labels) (key other : String) (value : Option String) :
    (m.insert? key value).get? other =
      if other = key then value.or (m.get? other) else m.get? other := by
  cases value with
  | none => simp [Labels.insert?]
  | some text => simp [Labels.insert?, Labels.get?_insert]

/-- The text to which the overrides set a label. -/
def Overrides.label? (o : Overrides) (key : String) : Option String :=
  if key = "threshold" then o.threshold.map fun n => Text.Decimal.intText n.toInt
  else if key = "duration" then o.seconds.map Duration.renderSeconds
  else Option.none

/-- A label is what the overrides set it to, or else what it was. -/
theorem Overrides.get?_apply (o : Overrides) (r : Rule) (key : String) :
    (o.apply r).labels.get? key = (o.label? key).or (r.labels.get? key) := by
  have hlabel : o.label? key =
      if key = thresholdLabel then o.threshold.map fun n => Text.Decimal.intText n.toInt
      else if key = durationLabel then o.seconds.map Duration.renderSeconds
      else Option.none := rfl
  rw [hlabel, Overrides.apply, Labels.get?_insert?, Labels.get?_insert?]
  by_cases hduration : key = durationLabel
  · subst hduration
    rfl
  · rw [if_neg hduration, if_neg hduration]
    split
    · rfl
    · exact Option.none_or.symm

theorem Overrides.bindings_apply (o : Overrides) (r : Rule) :
    (o.apply r).bindings = ⟨(o.label? thresholdLabel).or (r.labels.get? thresholdLabel),
      (o.label? durationLabel).or (r.labels.get? durationLabel)⟩ := by
  rw [Rule.bindings, o.get?_apply, o.get?_apply]

/-! ### Stages -/

theorem Rule.resolveExpr_eq_ok_iff {b : Placeholder.Bindings} {expr text : String} :
    Rule.resolveExpr b expr = .ok text ↔
      Placeholder.substitute b expr = .ok text ∧ Query.isValid text = true := by
  rw [Rule.resolveExpr, bind_eq_ok_iff]
  constructor
  · rintro ⟨filled, hfilled, hvalid⟩
    split at hvalid
    · next hquery =>
      cases hvalid
      exact ⟨mapError_eq_ok_iff.1 hfilled, hquery⟩
    · cases hvalid
  · rintro ⟨hfilled, hquery⟩
    exact ⟨text, mapError_eq_ok_iff.2 hfilled, if_pos hquery⟩

/-- A built rule is what the template decodes to with the overrides in its labels and its two
texts resolved. -/
theorem Rule.exists_draft {template : String} {o : Overrides} {r : Rule}
    (h : Rule.build template o = .ok r) :
    ∃ draft text, Rule.decode template = .ok draft ∧
      Rule.resolveExpr (o.apply draft).bindings draft.expr = .ok text ∧
      Rule.resolvePending (o.apply draft).bindings draft.pending = .ok r.pending ∧
      r = { o.apply draft with
        expr := if o.isDisabled then Query.disable text else text, pending := r.pending } := by
  obtain ⟨draft, hdraft, hresolve⟩ := bind_eq_ok_iff.1 h
  obtain ⟨text, htext, hrest⟩ := bind_eq_ok_iff.1 hresolve
  obtain ⟨pending, hpending, hr⟩ := bind_eq_ok_iff.1 hrest
  cases hr
  exact ⟨draft, text, hdraft, htext, hpending, rfl⟩

theorem Rule.build_of_decode {template : String} {draft : Rule}
    (h : Rule.decode template = .ok draft) (o : Overrides) :
    Rule.build template o = (o.apply draft).resolve o.isDisabled := by
  rw [Rule.build, h]
  rfl

/-- Resolving the texts of a rule leaves the rest of it. -/
theorem Rule.build_keeps {template : String} {o : Overrides} {draft r : Rule}
    (hdecode : Rule.decode template = .ok draft) (h : Rule.build template o = .ok r) :
    r.alert = draft.alert ∧ r.labels = (o.apply draft).labels ∧
      r.annotations = draft.annotations := by
  obtain ⟨draft', text, hdraft, -, -, hr⟩ := Rule.exists_draft h
  rw [hdecode] at hdraft
  cases hdraft
  rw [hr]
  exact ⟨rfl, rfl, rfl⟩

/-! ### Durations of built rules -/

/-- How long a rule is pending is resolved in one of three ways: a blank text is dropped, one
with placeholders is filled in and put into canonical form, any other is a duration and kept. -/
theorem Rule.resolvePending_cases {b : Placeholder.Bindings} {value text : String}
    (h : Rule.resolvePending b value = .ok text) :
    Text.isBlankText value = true ∧ text = "" ∨
      Placeholder.hasPlaceholders value = true ∧ (∃ d : Duration, text = d.render) ∨
      Placeholder.hasPlaceholders value = false ∧ text = value ∧
        ∃ d, Duration.parse value = .ok d := by
  unfold Rule.resolvePending at h
  split at h
  · next hblank =>
    cases h
    exact .inl ⟨hblank, rfl⟩
  split at h
  · next hplaceholders =>
    obtain ⟨filled, -, hcanonical⟩ := bind_eq_ok_iff.1 h
    obtain ⟨d, -, rfl⟩ := map_eq_ok_iff.1 (mapError_eq_ok_iff.1 hcanonical)
    exact .inr (.inl ⟨hplaceholders, d, rfl⟩)
  · next hplaceholders =>
    obtain ⟨d, hparse, hkept⟩ := bind_eq_ok_iff.1 h
    cases hkept
    exact .inr (.inr ⟨Bool.eq_false_iff.2 hplaceholders, rfl, d, mapError_eq_ok_iff.1 hparse⟩)

/-- What comes out is no text or can be read as a duration. -/
theorem Rule.resolvePending_eq_empty_or_parse {b : Placeholder.Bindings} {value text : String}
    (h : Rule.resolvePending b value = .ok text) :
    text = "" ∨ ∃ d, Duration.parse text = .ok d := by
  rcases Rule.resolvePending_cases h with ⟨-, rfl⟩ | ⟨-, d, rfl⟩ | ⟨-, rfl, hparse⟩
  · exact .inl rfl
  · exact .inr ⟨d, Duration.parse_render d⟩
  · exact .inr hparse

theorem Rule.resolvePending_length? {b : Placeholder.Bindings} {value text : String}
    (h : Rule.resolvePending b value = .ok text) : ∃ d, Duration.length? text = some d := by
  rcases Rule.resolvePending_eq_empty_or_parse h with rfl | ⟨d, hparse⟩
  · exact ⟨_, Duration.length?_of_blank rfl⟩
  · exact ⟨d, Duration.length?_of_parse hparse⟩

theorem Rule.build_length? {template : String} {o : Overrides} {r : Rule}
    (h : Rule.build template o = .ok r) : ∃ d, Duration.length? r.pending = some d := by
  obtain ⟨_, _, -, -, hpending, -⟩ := Rule.exists_draft h
  exact Rule.resolvePending_length? hpending

/-! ### Built groups -/

namespace Definition

variable {d : Definition} {g : RuleGroup}

theorem exists_rule_of_build (h : d.build = .ok g) :
    ∃ r, Rule.build d.template d.overrides = .ok r ∧ g = .ofRule d.id d.interval r := by
  obtain ⟨r, hr, rfl⟩ := map_eq_ok_iff.1 h
  exact ⟨r, hr, rfl⟩

theorem name_of_build (h : d.build = .ok g) : g.name = d.id.render := by
  obtain ⟨r, -, rfl⟩ := exists_rule_of_build h
  rfl

/-- The interval is written by the renderer, and the rule would not be built if the time for
which it is pending could not be read. -/
theorem isTimed_of_build (h : d.build = .ok g) : g.IsTimed := by
  obtain ⟨r, hr, rfl⟩ := exists_rule_of_build h
  obtain ⟨length, hlength⟩ := Rule.build_length? hr
  intro value hvalue
  rcases List.mem_cons.1 hvalue with rfl | hvalue
  · exact ⟨_, Duration.length?_of_parse (Duration.parse_render _)⟩
  · rw [List.mem_singleton.1 hvalue]
    exact ⟨length, hlength⟩

/-- A built group has the name of its definition and one rule, and all its durations
denote lengths. -/
theorem group_shape (h : d.group = .ok g) :
    g.name = d.id.render ∧ (∃ r, g.rules = [r]) ∧ g.IsTimed := by
  obtain ⟨-, -, hgroup⟩ := bind_eq_ok_iff.1 h
  have hbuild : d.build = .ok g := mapError_eq_ok_iff.1 hgroup
  obtain ⟨r, -, hr⟩ := exists_rule_of_build hbuild
  exact ⟨name_of_build hbuild, ⟨r, congrArg RuleGroup.rules hr⟩, isTimed_of_build hbuild⟩

end Definition

end AlertRules
