/-
AlertRules/Proofs/Definition/Durations.lean

The durations of what is built.  Three texts of a built group are durations: its interval, how
long its rule is pending, and the label for that.  A ruler reads the first two, so a group that is
built has to have texts there that can be read (`Definition.build_wellFormed`): the interval is
written from the seconds, and how long the rule is pending is either left out, or was read before,
or was written from what was read.

The way to the second text is a detour, from the label through a placeholder and back through the
reader.  For a template that asks for its own duration there it makes no difference
(`Rule.durations_agree`): a duration that overrides set comes out as it went into the label, and
one that the template has as a label comes out in canonical form, or is what the build is refused
for.
-/
import AlertRules.Proofs.Definition.Build
import AlertRules.Proofs.Definition.Id
import AlertRules.Proofs.Placeholder.Template

namespace AlertRules

open Outcome
open Placeholder (hasPlaceholders)

/-! ### Well-formed groups -/

theorem Placeholder.hasPlaceholders_of_isBlankText {text : String}
    (h : Text.isBlankText text = true) : hasPlaceholders text = false := by
  have hblank : ∀ c ∈ text.toList, Text.isBlank c = true := List.all_eq_true.1 h
  apply hasPlaceholders_of_not_mem
  · intro hbrace
    exact absurd (hblank '{' hbrace) (by decide)
  · intro hbracket
    exact absurd (hblank '[' hbracket) (by decide)

/-- What is resolved from a text with placeholders is in canonical form. -/
theorem Rule.canonicalize_resolvePending {b : Placeholder.Bindings} {value text : String}
    (h : Rule.resolvePending b value = .ok text) (hvalue : hasPlaceholders value = true) :
    Duration.canonicalize text = .ok text := by
  rcases Rule.resolvePending_cases h with ⟨hblank, -⟩ | ⟨-, d, rfl⟩ | ⟨hnone, -⟩
  · rw [Placeholder.hasPlaceholders_of_isBlankText hblank] at hvalue
    cases hvalue
  · exact Duration.canonicalize_render d
  · rw [hnone] at hvalue
    cases hvalue

namespace Definition

variable {d : Definition} {g : RuleGroup}

/-- A built group is named by its definition's identifier and by nothing else of the definition.
Its interval is read as the seconds of the definition.  It has one rule, which is pending for no
text or for one that can be read, in canonical form if the template had a placeholder there.  The
group has a normal form, from which it differs only in how durations are spelled. -/
theorem build_wellFormed (h : d.build = .ok g) :
    d.id.Spells g.name ∧
    (∀ other built, Definition.build other = .ok built →
      (built.name = g.name ↔ other.id = d.id)) ∧
    (∃ interval, Duration.parse g.interval = .ok interval ∧
      interval.nanos = d.interval.toNat * 1000000000) ∧
    (∃ r draft, g.rules = [r] ∧ Rule.decode d.template = .ok draft ∧
      (r.pending = "" ∨ ∃ length, Duration.parse r.pending = .ok length) ∧
      (hasPlaceholders draft.pending = true →
        Duration.canonicalize r.pending = .ok r.pending)) ∧
    ∃ normal, g.normalize = .ok normal ∧ normal.Agrees g := by
  refine ⟨?_, ?_, ?_, ?_, ?_⟩
  · rw [name_of_build h]
    exact d.id.spells_render
  · intro other built hbuilt
    rw [name_of_build h, name_of_build hbuilt]
    exact ⟨DefinitionId.render_injective, congrArg DefinitionId.render⟩
  · obtain ⟨r, -, rfl⟩ := exists_rule_of_build h
    exact ⟨_, Duration.parse_render _, rfl⟩
  · obtain ⟨r, hr, rfl⟩ := exists_rule_of_build h
    obtain ⟨draft, text, hdraft, -, hpending, -⟩ := Rule.exists_draft hr
    exact ⟨r, draft, rfl, hdraft, Rule.resolvePending_eq_empty_or_parse hpending,
      Rule.canonicalize_resolvePending hpending⟩
  · exact ⟨_, RuleGroup.normalize_of_isTimed (isTimed_of_build h),
      RuleGroup.normalForm_agrees (isTimed_of_build h)⟩

end Definition

/-- A template that asks for its duration, and has it as a label in a spelling of its own. -/
def timedTemplate : String :=
  "alert: A\nexpr: up\nfor: '[[ .Duration ]]'\nlabels:\n  duration: 90s\n"

def timedDraft : Rule where
  alert := "A"
  expr := "up"
  pending := "[[ .Duration ]]"
  labels := Labels.empty.insert "duration" "90s"

theorem decode_timed : Rule.decode timedTemplate = .ok timedDraft := by decide +kernel

/-- The label keeps its spelling, and the rule is pending for the canonical one. -/
theorem Definition.build_wellFormed_timed :
    let d : Definition := { id := default, tenant := "t", template := timedTemplate, interval := 60 }
    let r : Rule := { timedDraft with pending := "1m30s" }
    let g : RuleGroup := ⟨"00000000-0000-0000-0000-000000000000", "1m0s", [r]⟩
    d.build = .ok g ∧ d.id.Spells g.name ∧
      (∃ interval, Duration.parse "1m0s" = .ok interval ∧ interval.nanos = 60000000000) ∧
      Duration.canonicalize "1m30s" = .ok "1m30s" ∧
      ∃ normal, g.normalize = .ok normal ∧ normal.Agrees g := by
  intro d r g
  have hbuild : d.build = .ok g := by decide +kernel
  obtain ⟨hname, -, ⟨interval, hinterval, hnanos⟩, hrule, hnormal⟩ :=
    Definition.build_wellFormed hbuild
  obtain ⟨built, draft, hrules, hdraft, -, hcanonical⟩ := hrule
  cases hrules
  cases decode_timed.symm.trans hdraft
  exact ⟨hbuild, hname, ⟨interval, hinterval, hnanos.trans (by decide +kernel)⟩,
    hcanonical (by decide +kernel), hnormal⟩

/-! ### A rule that is pending for its own duration -/

namespace Rule

variable {template : String} {o : Overrides} {draft : Rule} {p : Placeholder.Reference}

/-- Resolving an expression finds no fault with a duration. -/
theorem resolveExpr_ne_pending (b : Placeholder.Bindings) (expr value : String)
    (cause : Duration.Error) : resolveExpr b expr ≠ .error (.pending value cause) := by
  intro h
  rw [resolveExpr, fill] at h
  cases hfilled : Placeholder.substitute b expr with
  | error e =>
    rw [hfilled] at h
    cases h
  | ok text =>
    rw [hfilled, mapError_ok, ok_bind] at h
    split at h
    · cases h
    · cases h

/-- A reference is resolved to the canonical form of the value of its field. -/
theorem resolvePending_reference {b : Placeholder.Bindings} {value : String}
    (hvalue : b.get p.field = some value) :
    resolvePending b p.text = (Duration.canonicalize value).mapError (.pending value) := by
  have hblank : ¬ Text.isBlankText p.text = true := by
    rw [p.isBlankText_text]
    nofun
  rw [resolvePending, if_neg hblank, if_pos p.hasPlaceholders_text, fill, p.substitute_text,
    hvalue]
  rfl

section Label

variable {value : String} (hdecode : decode template = .ok draft) (hfield : p.field = .duration)
  (hpending : draft.pending = p.text)
  (hlabel : (o.apply draft).labels.get? durationLabel = some value)

include hdecode hfield hpending hlabel

/-- Where the template asks for its duration, the build depends on the label for it. -/
theorem build_of_label : build template o = (do
      let text ← resolveExpr (o.apply draft).bindings draft.expr
      let pending ← (Duration.canonicalize value).mapError (.pending value)
      .ok { o.apply draft with
        expr := if o.isDisabled then Query.disable text else text, pending }) := by
  have hget : (o.apply draft).bindings.get p.field = some value := by
    rw [hfield]
    exact hlabel
  have hresolve := resolvePending_reference hget
  rw [← hpending] at hresolve
  rw [build_of_decode hdecode, resolve, ← hresolve]
  rfl

/-- Such a rule is pending for the canonical form of its label. -/
theorem canonicalize_label {r : Rule} (h : build template o = .ok r) :
    Duration.canonicalize value = .ok r.pending ∧ r.labels.get? durationLabel = some value := by
  have hlabels := (build_keeps hdecode h).2.1
  rw [build_of_label hdecode hfield hpending hlabel] at h
  obtain ⟨text, -, hrest⟩ := bind_eq_ok_iff.1 h
  obtain ⟨pending, hcanonical, hr⟩ := bind_eq_ok_iff.1 hrest
  cases hr
  exact ⟨mapError_eq_ok_iff.1 hcanonical, hlabel⟩

/-- It is refused for a duration only if its label is no duration. -/
theorem parse_label_of_refused {text : String} {cause : Duration.Error}
    (h : build template o = .error (.pending text cause)) :
    Duration.parse value = .error cause := by
  rw [build_of_label hdecode hfield hpending hlabel] at h
  cases hexpr : resolveExpr (o.apply draft).bindings draft.expr with
  | error e =>
    rw [hexpr] at h
    cases h
    exact absurd hexpr (resolveExpr_ne_pending _ _ _ _)
  | ok expr =>
    rw [hexpr] at h
    cases hparse : Duration.parse value with
    | error e =>
      rw [Duration.canonicalize, hparse] at h
      cases h
      rfl
    | ok length =>
      rw [Duration.canonicalize, hparse] at h
      cases h

/-- Once the expression is resolved, the label alone decides. -/
theorem build_of_label_of_expr {text : String}
    (hexpr : resolveExpr (o.apply draft).bindings draft.expr = .ok text) :
    (∀ length, Duration.parse value = .ok length → ∃ r, build template o = .ok r) ∧
      ∀ cause, Duration.parse value = .error cause →
        build template o = .error (.pending value cause) := by
  rw [build_of_label hdecode hfield hpending hlabel, hexpr]
  constructor
  · intro length hparse
    rw [Duration.canonicalize, hparse]
    exact ⟨_, rfl⟩
  · intro cause hparse
    rw [Duration.canonicalize, hparse]
    rfl

end Label

/-- Let a template ask for its duration where it says how long its rule is pending.  If overrides
set the duration, then no duration is at fault, and the label, the time that the rule is pending
and the interval of that many seconds are one text.  If they do not, the label stays what the
template says and the rule is pending for its canonical form, and with an expression that is
resolved the rule is refused for the label exactly if that is no duration. -/
theorem durations_agree (hdecode : decode template = .ok draft) (hfield : p.field = .duration)
    (hpending : draft.pending = p.text) :
    (∀ secs, o.seconds = some secs →
      (∀ value cause, build template o ≠ .error (.pending value cause)) ∧
      (∀ r, build template o = .ok r →
        r.pending = Duration.renderSeconds secs ∧
        r.labels.get? "duration" = some (Duration.renderSeconds secs) ∧
        ∀ id, (RuleGroup.ofRule id secs r).interval = r.pending) ∧
      ∀ text, resolveExpr (o.apply draft).bindings draft.expr = .ok text →
        ∃ r, build template o = .ok r) ∧
    (o.seconds = none → ∀ value, draft.labels.get? "duration" = some value →
      (∀ r, build template o = .ok r →
        Duration.canonicalize value = .ok r.pending ∧ r.labels.get? "duration" = some value) ∧
      ∀ text, resolveExpr (o.apply draft).bindings draft.expr = .ok text →
        ((∃ r, build template o = .ok r) ↔ ∃ length, Duration.parse value = .ok length) ∧
        ((∃ cause, build template o = .error (.pending value cause)) ↔
          ∀ length, Duration.parse value ≠ .ok length)) := by
  constructor
  · intro secs hsecs
    have hlabel : (o.apply draft).labels.get? durationLabel =
        some (Duration.renderSeconds secs) := by
      rw [o.get?_apply, Overrides.label?, hsecs]
      rfl
    have hparse := Duration.parse_render (Duration.ofSeconds secs)
    refine ⟨?_, ?_, ?_⟩
    · intro value cause hrefused
      have hfault := parse_label_of_refused hdecode hfield hpending hlabel hrefused
      cases hparse.symm.trans hfault
    · intro r hr
      obtain ⟨hcanonical, hkept⟩ := canonicalize_label hdecode hfield hpending hlabel hr
      -- what is rendered is canonical, so the way through the reader changes nothing
      have hsame : Duration.renderSeconds secs = r.pending :=
        Except.ok.inj ((Duration.canonicalize_render _).symm.trans hcanonical)
      exact ⟨hsame.symm, hkept, fun _ => hsame⟩
    · intro text hexpr
      exact (build_of_label_of_expr hdecode hfield hpending hlabel hexpr).1 _ hparse
  · intro hsecs value hvalue
    have hlabel : (o.apply draft).labels.get? durationLabel = some value := by
      rw [o.get?_apply, Overrides.label?, hsecs]
      exact hvalue
    refine ⟨fun r hr => canonicalize_label hdecode hfield hpending hlabel hr, ?_⟩
    intro text hexpr
    obtain ⟨haccepted, hrefused⟩ := build_of_label_of_expr hdecode hfield hpending hlabel hexpr
    constructor
    · constructor
      · rintro ⟨r, hr⟩
        have hcanonical := (canonicalize_label hdecode hfield hpending hlabel hr).1
        obtain ⟨length, hparse, -⟩ := map_eq_ok_iff.1 hcanonical
        exact ⟨length, hparse⟩
      · rintro ⟨length, hparse⟩
        exact haccepted length hparse
    · constructor
      · rintro ⟨cause, hcause⟩ length hparse
        have hfault := parse_label_of_refused hdecode hfield hpending hlabel hcause
        cases hparse.symm.trans hfault
      · intro hno
        cases hparse : Duration.parse value with
        | error cause => exact ⟨cause, hrefused cause hparse⟩
        | ok length => exact absurd hparse (hno length)

/-- One minute as an override is one text in all places; without it, the label decides. -/
theorem durations_agree_timed :
    let p : Placeholder.Reference :=
      { delimiter := .bracket, field := .duration, lead := [' '], trail := [' '] }
    decode timedTemplate = .ok timedDraft ∧ p.field = .duration ∧ timedDraft.pending = p.text ∧
      (∃ r, build timedTemplate { seconds := some 60 } = .ok r ∧ r.pending = "1m0s" ∧
        r.labels.get? "duration" = some "1m0s") ∧
      (∃ r, build timedTemplate {} = .ok r ∧ Duration.canonicalize "90s" = .ok r.pending ∧
        r.labels.get? "duration" = some "90s") := by
  intro p
  have hpending : timedDraft.pending = p.text := by decide +kernel
  refine ⟨decode_timed, rfl, hpending, ?_, ?_⟩
  · obtain ⟨-, hsame, hbuilt⟩ :=
      (durations_agree (o := { seconds := some 60 }) decode_timed rfl hpending).1 60 rfl
    obtain ⟨r, hr⟩ := hbuilt "up" (by decide +kernel)
    have hrender : Duration.renderSeconds 60 = "1m0s" := by decide +kernel
    obtain ⟨hr₁, hr₂, -⟩ := hsame r hr
    rw [hrender] at hr₁ hr₂
    exact ⟨r, hr, hr₁, hr₂⟩
  · obtain ⟨hlabel, hdecides⟩ :=
      (durations_agree (o := {}) decode_timed rfl hpending).2 rfl "90s" (by decide +kernel)
    have hparse : ∃ length, Duration.parse "90s" = .ok length :=
      ⟨Duration.ofSeconds 90, by decide +kernel⟩
    obtain ⟨r, hr⟩ := (hdecides "up" (by decide +kernel)).1.2 hparse
    exact ⟨r, hr, hlabel r hr⟩

end Rule

end AlertRules
