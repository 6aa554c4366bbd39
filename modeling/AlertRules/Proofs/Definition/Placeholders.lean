/-
AlertRules/Proofs/Definition/Placeholders.lean

Placeholders that are left in a built rule.  Of how long the rule is pending none are left.  Its
expression is made of the literals of the template's expression and of values, and numbers and
durations are inert as values; so what is left in it are brackets in the literals that look like
an opener (`Rule.build_placeholders`).

The template's expression then has a placeholder in bracket notation with `}}` in it, and there
are such templates (`Rule.not_always_resolved`): the closing brackets of the placeholder are made
braces, but it ends at the braces before them, and a second opener in it stays.
-/
import AlertRules.Proofs.Definition.Build
import AlertRules.Proofs.Duration.Canonical
import AlertRules.Proofs.Placeholder.Segments

namespace AlertRules

open Outcome
open Placeholder (IsInert FillsInert Reopens Mixes hasPlaceholders)

/-! ### Values -/

namespace Placeholder

/-- The characters of numbers and durations. -/
def isValueChar (c : Char) : Bool := c.isDigit || ['.', 'n', 's', '\u00b5', 'm', 'h'].contains c

theorem isInert_of_digit {c : Char} {cs : List Char} (hc : c.isDigit = true)
    (hcs : (c :: cs).all isValueChar = true) : IsInert (c :: cs) := by
  have hno : ∀ d, isValueChar d = false → d ∉ c :: cs := by
    intro d hd hmem
    rw [List.all_eq_true.1 hcs d hmem] at hd
    cases hd
  refine ⟨List.cons_ne_nil _ _, ⟨hno _ rfl, hno _ rfl, hno _ rfl⟩, fun behind => ?_⟩
  have hlead : isLead c = false := by
    rw [Bool.eq_false_iff]
    intro hlead
    simp only [isLead, Bool.or_eq_true, beq_iff_eq] at hlead
    rcases hlead with (rfl | rfl) | rfl <;> cases hc
  rw [List.cons_append, opensField_cons, hlead]
  exact beq_eq_false_iff_ne.2 (Duration.ne_dot_of_isDigit hc)

theorem all_isValueChar {cs : List Char} (h : ∀ c ∈ cs, c.isDigit = true) :
    cs.all isValueChar = true :=
  List.all_eq_true.2 fun c hc => by rw [isValueChar, h c hc, Bool.true_or]

theorem isInert_intText (n : Int) : IsInert (Text.Decimal.intText n).toList := by
  have hdigits : IsInert (Text.Decimal.digits n.natAbs) := by
    have hnumeral := Text.Decimal.isNumeral_digits n.natAbs
    obtain ⟨c, cs, hcs⟩ := List.exists_cons_of_ne_nil hnumeral.ne_nil
    rw [hcs] at hnumeral ⊢
    exact isInert_of_digit (hnumeral.isDigit c List.mem_cons_self)
      (all_isValueChar hnumeral.isDigit)
  rw [Text.Decimal.intText, Text.Decimal.text]
  split
  · -- a sign in front is skipped in the search for a field reference
    have hchars : ("-" ++ String.ofList (Text.Decimal.digits n.natAbs)).toList =
        '-' :: Text.Decimal.digits n.natAbs := by
      rw [String.toList_append, String.toList_ofList (l := Text.Decimal.digits n.natAbs)]
      rfl
    rw [hchars]
    refine ⟨List.cons_ne_nil _ _, by simpa using hdigits.not_mem, fun behind => ?_⟩
    exact (opensField_cons _ _).trans (hdigits.start behind)
  · rwa [String.toList_ofList]

section Canonical

open Text.Decimal (IsNumeral IsFraction)

theorem all_isValueChar_of_isFraction {places : Nat} {f : List Char} (hf : IsFraction places f) :
    f.all isValueChar = true := by
  cases hf with
  | none => rfl
  | some _ _ hdigit _ =>
    rw [List.all_cons, all_isValueChar hdigit]
    rfl

theorem all_isValueChar_of_isCanonical {cs : List Char} (h : Duration.IsCanonical cs) :
    cs.all isValueChar = true := by
  cases h with
  | zero => rfl
  | single hunit hw _ _ hf =>
    simp only [List.all_append, all_isValueChar hw.isDigit, all_isValueChar_of_isFraction hf]
    simp only [List.mem_cons, Prod.mk.injEq, List.not_mem_nil, or_false] at hunit
    rcases hunit with ⟨-, rfl⟩ | ⟨-, rfl⟩ | ⟨-, rfl⟩ <;> rfl
  | seconds hs _ _ hf =>
    simp only [List.all_append, all_isValueChar hs.isDigit, all_isValueChar_of_isFraction hf]
    rfl
  | minutes hm _ _ hs _ hf =>
    simp only [List.all_append, all_isValueChar hm.isDigit, all_isValueChar hs.isDigit,
      all_isValueChar_of_isFraction hf]
    rfl
  | hours hh _ hm _ hs _ hf _ =>
    simp only [List.all_append, all_isValueChar hh.isDigit, all_isValueChar hm.isDigit,
      all_isValueChar hs.isDigit, all_isValueChar_of_isFraction hf]
    rfl

/-- A canonical spelling starts with a digit. -/
theorem exists_digit_of_isCanonical {cs : List Char} (h : Duration.IsCanonical cs) :
    ∃ c rest, cs = c :: rest ∧ c.isDigit = true := by
  have hstart : ∀ {w : List Char} (more : List Char), IsNumeral w →
      ∃ c rest, w ++ more = c :: rest ∧ c.isDigit = true := by
    intro w more hw
    obtain ⟨c, w, rfl⟩ := List.exists_cons_of_ne_nil hw.ne_nil
    exact ⟨c, w ++ more, rfl, hw.isDigit c List.mem_cons_self⟩
  cases h with
  | zero => exact ⟨'0', ['s'], rfl, rfl⟩
  | single _ hw => rw [List.append_assoc]; exact hstart _ hw
  | seconds hs => rw [List.append_assoc]; exact hstart _ hs
  | minutes hm => rw [List.append_assoc]; exact hstart _ hm
  | hours hh => rw [List.append_assoc]; exact hstart _ hh

end Canonical

theorem isInert_render (d : Duration) : IsInert d.render.toList := by
  have hcanonical := Duration.isCanonical_iff.2 ⟨d, rfl⟩
  obtain ⟨c, rest, hcs, hc⟩ := exists_digit_of_isCanonical hcanonical
  have hall := all_isValueChar_of_isCanonical hcanonical
  rw [hcs] at hall ⊢
  exact isInert_of_digit hc hall

theorem isInert_disabledClause : IsInert Query.disabledClause.toList :=
  ⟨by decide, by decide, fun _ => rfl⟩

/-- An inert text has no placeholders. -/
theorem hasPlaceholders_of_isInert {v : String} (hv : IsInert v.toList) :
    hasPlaceholders v = false := by
  have happend := hasPlaceholders_append_inert hv ""
  rw [String.empty_append] at happend
  exact happend.trans (by decide +kernel)

end Placeholder

/-! ### Built rules -/

namespace Rule

variable {template : String} {o : Overrides} {r : Rule}

/-- Both values are inert, and no other field has a value. -/
theorem isInert_of_value? {n : Int64} {secs : UInt64} (hn : o.threshold = some n)
    (hsecs : o.seconds = some secs) {draft : Rule} {name value : String}
    (hvalue : (o.apply draft).bindings.value? name = some value) : IsInert value.toList := by
  have hthreshold : o.label? thresholdLabel = some (Text.Decimal.intText n.toInt) := by
    rw [Overrides.label?, hn]
    rfl
  have hduration : o.label? durationLabel = some (Duration.renderSeconds secs) := by
    rw [Overrides.label?, hsecs]
    rfl
  rw [o.bindings_apply, hthreshold, hduration, Placeholder.Bindings.value?] at hvalue
  split at hvalue
  · cases hvalue
    exact Placeholder.isInert_intText _
  split at hvalue
  · cases hvalue
    exact Placeholder.isInert_render _
  · cases hvalue

/-- What a rule is pending for has no placeholders left. -/
theorem resolvePending_hasPlaceholders {b : Placeholder.Bindings} {value text : String}
    (h : resolvePending b value = .ok text) : hasPlaceholders text = false := by
  rcases resolvePending_cases h with ⟨-, rfl⟩ | ⟨-, d, rfl⟩ | ⟨hnone, rfl, -⟩
  · decide +kernel
  · exact Placeholder.hasPlaceholders_of_isInert (Placeholder.isInert_render d)
  · exact hnone

/-- With both parameters set, a built rule has placeholders in its expression exactly if the
literals of the template's expression reopen, and so only if a bracket placeholder there has two
closing braces in it.  What the rule is pending for never has any. -/
theorem build_placeholders (h : Rule.build template o = .ok r) (hn : o.threshold.isSome = true)
    (hsecs : o.seconds.isSome = true) :
    hasPlaceholders r.pending = false ∧
    ∃ draft segs, Rule.decode template = .ok draft ∧
      Placeholder.segmentsOf draft.expr = .ok segs ∧
      (hasPlaceholders r.expr = true ↔ Reopens segs) ∧
      (hasPlaceholders r.expr = true → Mixes draft.expr.toList) := by
  obtain ⟨n, hn⟩ := Option.isSome_iff_exists.1 hn
  obtain ⟨secs, hsecs⟩ := Option.isSome_iff_exists.1 hsecs
  obtain ⟨draft, text, hdraft, htext, hpending, hr⟩ := exists_draft h
  obtain ⟨segs, hsegs, hvalues, rfl⟩ :=
    Placeholder.substitute_eq_ok_iff.1 (resolveExpr_eq_ok_iff.1 htext).1
  have hinert : FillsInert (o.apply draft).bindings segs := by
    intro name hname
    obtain ⟨value, hvalue⟩ := Option.isSome_iff_exists.1 (hvalues name hname)
    rw [hvalue]
    exact isInert_of_value? hn hsecs hvalue
  -- the clause of a disabled rule is inert
  have hclause : hasPlaceholders r.expr = hasPlaceholders
      (String.ofList (segs.flatMap (Placeholder.Segment.fill (o.apply draft).bindings))) := by
    rw [congrArg Rule.expr hr]
    split
    · exact Placeholder.hasPlaceholders_append_inert Placeholder.isInert_disabledClause _
    · rfl
  have hiff := Placeholder.hasPlaceholders_fill_iff hsegs hinert
  rw [← hclause] at hiff
  exact ⟨resolvePending_hasPlaceholders hpending, draft, segs, hdraft, hsegs, hiff,
    fun hleft => Placeholder.mixes_of_reopens hsegs (hiff.1 hleft)⟩

/-- A bracket placeholder that is closed by braces first, and by brackets later. -/
def mixedTemplate : String :=
  "alert: A\nexpr: 'up\x7ba=\"[[ .Threshold \x7d\x7d [[ .Duration ]] ]]\"\x7d'"

def mixedOverrides : Overrides := { threshold := some 100, seconds := some 60 }

/-- What is built of it: a query with a text in which the second opener is left. -/
def mixedRule : Rule where
  alert := "A"
  expr := "up\x7ba=\"100 [[ .Duration \x7d\x7d ]]\"\x7d"
  labels := (Labels.empty.insert "threshold" "100").insert "duration" "1m0s"

theorem build_mixed : Rule.build mixedTemplate mixedOverrides = .ok mixedRule := by decide +kernel

theorem hasPlaceholders_mixed : hasPlaceholders mixedRule.expr = true := by decide +kernel

/-- The literals of the mixed template reopen. -/
theorem build_placeholders_mixed :
    Rule.build mixedTemplate mixedOverrides = .ok mixedRule ∧
    mixedOverrides.threshold.isSome = true ∧ mixedOverrides.seconds.isSome = true ∧
    hasPlaceholders mixedRule.pending = false ∧
    ∃ draft segs, Rule.decode mixedTemplate = .ok draft ∧
      Placeholder.segmentsOf draft.expr = .ok segs ∧ Reopens segs ∧ Mixes draft.expr.toList := by
  obtain ⟨hpending, draft, segs, hdraft, hsegs, hiff, hmixes⟩ :=
    build_placeholders build_mixed rfl rfl
  exact ⟨build_mixed, rfl, rfl, hpending, draft, segs, hdraft, hsegs,
    hiff.1 hasPlaceholders_mixed, hmixes hasPlaceholders_mixed⟩

/-- Not every built rule is free of placeholders. -/
theorem not_always_resolved :
    ¬ ∀ (template : String) (o : Overrides) (r : Rule), Rule.build template o = .ok r →
      o.threshold.isSome = true → o.seconds.isSome = true →
      hasPlaceholders r.expr = false ∧ hasPlaceholders r.pending = false := by
  intro hall
  have hnone := (hall _ _ _ build_mixed rfl rfl).1
  rw [hasPlaceholders_mixed] at hnone
  cases hnone

end Rule

end AlertRules
