/-
AlertRules/Proofs/Placeholder/Detection.lean

Looking for placeholders and putting values in their places agree.  What substitution answers
is read off the segments of a text: they do not exist, or some field in them has no value, or
they are filled in (`substitute_eq_malformed_iff`, `substitute_eq_undefined_iff`,
`substitute_eq_ok_iff`).  Only the last two look at the values, so a malformed placeholder
comes before any field without a value, and values that are added change nothing in a text
that is filled in already.

A text without placeholders comes back as it was, although substitution rewrites its brackets
first (`substitute_of_not_hasPlaceholders`): without two braces in the result of the rewriting
there was no opener to rewrite.  And a text that needs no values has no placeholders.
-/
import AlertRules.Proofs.Placeholder.Segments

namespace AlertRules.Placeholder

variable {b : Bindings} {text filled field template reason : String} {segs : List Segment}

/-! ### Values -/

/-- Every field has the value that it has in the other bindings, if it has one there. -/
def Bindings.Extends (b' b : Bindings) : Prop :=
  ∀ field value, b.value? field = some value → b'.value? field = some value

/-- No field has a value. -/
def Bindings.none : Bindings := {}

theorem Bindings.value?_none (field : String) : Bindings.none.value? field = .none := by
  unfold value?
  split
  · rfl
  split <;> rfl

/-! ### Fields of a text -/

/-- In brace notation the text has the field in a placeholder. -/
def RefersTo (text field : String) : Prop :=
  ∃ before inner rest,
    toBraces text.toList = before ++ '{' :: '{' :: (inner ++ '}' :: '}' :: rest) ∧
      (Action.ofInner inner).field? = some field

/-- The fields among the segments are those that the placeholders refer to. -/
theorem Segmented.exists_action {trimmed : Bool} {cs : List Char}
    (h : Segmented trimmed cs segs) (hfield : .field field ∈ segs) :
    ∃ before inner rest, cs = before ++ '{' :: '{' :: (inner ++ '}' :: '}' :: rest) ∧
      (Action.ofInner inner).field? = some field := by
  have hliteral : ∀ cs, Segment.field field ∉ literalSegment cs := by
    intro cs
    cases cs <;> simp [literalSegment]
  induction h with
  | last => exact absurd hfield (hliteral _)
  | @placeholder trimmed before inner rest name more _ _ hname _ ih =>
    rcases List.mem_append.1 hfield with hfield | hfield
    · exact absurd hfield (hliteral _)
    rcases List.mem_cons.1 hfield with heq | hfield
    · cases heq
      exact ⟨before, inner, rest, rfl, hname⟩
    · obtain ⟨before', inner', rest', rfl, hname'⟩ := ih hfield
      exact ⟨before ++ '{' :: '{' :: (inner ++ '}' :: '}' :: before'), inner', rest', by simp,
        hname'⟩

theorem refersTo_of_mem (h : segmentsOf text = .ok segs) (hfield : .field field ∈ segs) :
    RefersTo text field :=
  (segmented_of_segments h).exists_action hfield

/-! ### Answers of substitution -/

/-- Whether something is malformed is decided without the values. -/
theorem substitute_eq_malformed_iff :
    substitute b text = .error (.malformed template reason) ↔
      ∃ fault, segmentsOf text = .error fault ∧ template = text ∧ reason = fault.message := by
  rw [substitute]
  cases segmentsOf text with
  | error fault => simp [eq_comm]
  | ok segs =>
    simp only [reduceCtorEq, false_and, exists_false, iff_false]
    cases undefinedField? b segs <;> simp

theorem undefinedField?_eq_some (h : undefinedField? b segs = some field) :
    .field field ∈ segs ∧ b.value? field = none := by
  obtain ⟨s, hs, hfield⟩ := List.exists_of_findSome?_eq_some h
  cases s with
  | literal text => cases hfield
  | field name =>
    simp only at hfield
    split at hfield
    · next hnone =>
      cases hfield
      exact ⟨hs, Option.isNone_iff_eq_none.1 hnone⟩
    · cases hfield

theorem substitute_eq_undefined_iff :
    substitute b text = .error (.undefinedField field template) ↔
      ∃ segs, segmentsOf text = .ok segs ∧ undefinedField? b segs = some field ∧
        template = text := by
  rw [substitute]
  cases segmentsOf text with
  | error fault => simp
  | ok segs =>
    simp only [Except.ok.injEq, exists_eq_left']
    cases undefinedField? b segs <;> simp [eq_comm]

/-- Further values do not change what is filled in. -/
theorem fill_of_extends {b' : Bindings} (hb : b'.Extends b)
    (hvalues : ∀ name, .field name ∈ segs → (b.value? name).isSome) :
    segs.flatMap (Segment.fill b') = segs.flatMap (Segment.fill b) := by
  apply List.flatMap_congr
  intro s hs
  cases s with
  | literal text => rfl
  | field name =>
    obtain ⟨value, hvalue⟩ := Option.isSome_iff_exists.1 (hvalues name hs)
    rw [Segment.fill, Segment.fill, hvalue, hb name value hvalue]

theorem substitute_of_extends {b' : Bindings} (hb : b'.Extends b)
    (h : substitute b text = .ok filled) : substitute b' text = .ok filled := by
  obtain ⟨segs, hsegs, hvalues, rfl⟩ := substitute_eq_ok_iff.1 h
  refine substitute_eq_ok_iff.2 ⟨segs, hsegs, fun name hname => ?_, ?_⟩
  · obtain ⟨value, hvalue⟩ := Option.isSome_iff_exists.1 (hvalues name hname)
    rw [hb name value hvalue]
    rfl
  · rw [fill_of_extends hb hvalues]

/-! ### Texts without placeholders -/

/-- There is nothing to rewrite where the rewriting leads to no placeholder. -/
theorem segmentsOf_of_not_hasPlaceholders (h : hasPlaceholders text = false) :
    segmentsOf text = .ok (literalSegment text.toList) := by
  have hpair : ¬ HasPair '{' (toBraces text.toList) := by
    rw [← hasPlaceholders_iff, h]
    nofun
  have hopener : ¬ HasOpener text.toList False := fun hopener =>
    hpair (hasPair_toBraces_iff.2 (.inr hopener))
  rw [segmentsOf, segments_of_none (breakAtPair?_eq_none_iff.2 hpair),
    toBraces_eq_self_iff.2 hopener]
  rfl

theorem substitute_of_not_hasPlaceholders (h : hasPlaceholders text = false) (b : Bindings) :
    substitute b text = .ok text := by
  refine substitute_eq_ok_iff.2 ⟨_, segmentsOf_of_not_hasPlaceholders h, ?_, ?_⟩
  · intro name hname
    cases hcs : text.toList <;> simp [hcs, literalSegment] at hname
  · rw [flatMap_fill_last, String.ofList_toList]

/-- What can be filled in without values has no placeholders. -/
theorem not_hasPlaceholders_of_substitute (h : substitute .none text = .ok filled) :
    hasPlaceholders text = false := by
  obtain ⟨segs, hsegs, hvalues, -⟩ := substitute_eq_ok_iff.1 h
  rw [hasPlaceholders, hsegs]
  simp only
  rw [List.any_eq_false]
  intro s hs
  cases s with
  | literal text => exact Bool.false_ne_true
  | field name =>
    have hvalue := hvalues name hs
    rw [Bindings.value?_none] at hvalue
    cases hvalue

/-- Detection and substitution agree on every text.  The texts without placeholders are those
that substitution gives back for all values, and those that it fills in without any.  What is
malformed is malformed for all values, the field that is reported to have none is one that the
text refers to, and further values change nothing in what is filled in. -/
theorem detection_agrees (text : String) :
    (hasPlaceholders text = false ↔ ∀ b, substitute b text = .ok text) ∧
    (hasPlaceholders text = false ↔ ∃ filled, substitute .none text = .ok filled) ∧
    (∀ b template reason, substitute b text = .error (.malformed template reason) →
      ∀ b', substitute b' text = .error (.malformed template reason)) ∧
    (∀ b field template, substitute b text = .error (.undefinedField field template) →
      template = text ∧ RefersTo text field ∧ b.value? field = none) ∧
    (∀ b filled, substitute b text = .ok filled →
      ∀ b' : Bindings, b'.Extends b → substitute b' text = .ok filled) := by
  refine ⟨⟨substitute_of_not_hasPlaceholders, ?_⟩, ⟨?_, ?_⟩, ?_, ?_, ?_⟩
  · exact fun hall => not_hasPlaceholders_of_substitute (hall .none)
  · exact fun hno => ⟨text, substitute_of_not_hasPlaceholders hno .none⟩
  · rintro ⟨filled, hfilled⟩
    exact not_hasPlaceholders_of_substitute hfilled
  · intro b template reason hmalformed b'
    exact substitute_eq_malformed_iff.2 (substitute_eq_malformed_iff.1 hmalformed)
  · intro b field template hundefined
    obtain ⟨segs, hsegs, hfield, htemplate⟩ := substitute_eq_undefined_iff.1 hundefined
    obtain ⟨hmem, hvalue⟩ := undefinedField?_eq_some hfield
    exact ⟨htemplate, refersTo_of_mem hsegs hmem, hvalue⟩
  · exact fun b filled hfilled b' hb => substitute_of_extends hb hfilled

/-- A malformed placeholder is reported before a field without a value that stands in front. -/
example : substitute {} "[[ .Threshold ]]\x7b\x7b" =
    .error (.malformed "[[ .Threshold ]]\x7b\x7b" "unclosed placeholder") := by
  decide +kernel

end AlertRules.Placeholder
