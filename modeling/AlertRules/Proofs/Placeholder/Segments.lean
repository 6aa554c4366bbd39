/-
AlertRules/Proofs/Placeholder/Segments.lean

Texts as sequences of literals and placeholders.  `Segmented` says what the segments of a text
are, one placeholder after another with the literal before it.

A text has placeholders if there are two braces in it once brackets are rewritten
(`hasPlaceholders_iff`).  So filling the segments in can leave a placeholder behind.  The values
are harmless if they have no brackets or braces and do not start like a field reference
(`IsInert`); then nothing depends on them, and what is filled in has placeholders exactly if the
literals reopen, that is if brackets in one of them look like an opener
(`hasPlaceholders_fill_iff`).

This happens in one way only.  The rewriting of brackets looks at a text once and does not mind
braces, so a placeholder in bracket notation may have `}}` in it, which ends it early; what is
behind is a literal that the rewriting does not see any more (`mixes_of_reopens`).
-/
import AlertRules.Placeholder
import AlertRules.Proofs.Outcome
import AlertRules.Proofs.Placeholder.Brackets
import AlertRules.Proofs.Text.Trim

namespace AlertRules.Placeholder

variable {cs text : List Char} {segs more : List Segment} {trimmed : Bool}

/-! ### Segments -/

/-- A literal without the white space that the marks of its neighbours cut off. -/
def cutLiteral (atStart atEnd : Bool) (cs : List Char) : List Char :=
  let cs := if atStart then Text.trimStart cs else cs
  if atEnd then Text.trimEnd cs else cs

theorem exists_cutLiteral (atStart atEnd : Bool) (cs : List Char) :
    ∃ before behind, cs = before ++ (cutLiteral atStart atEnd cs ++ behind) := by
  have hstart : ∃ before, cs = before ++ if atStart then Text.trimStart cs else cs := by
    cases atStart with
    | false => exact ⟨[], rfl⟩
    | true =>
      obtain ⟨before, h⟩ := List.dropWhile_suffix (l := cs) Text.isBlank
      exact ⟨before, h.symm⟩
  obtain ⟨before, hbefore⟩ := hstart
  unfold cutLiteral
  generalize (if atStart then Text.trimStart cs else cs) = rest at hbefore ⊢
  cases atEnd with
  | false => exact ⟨before, [], by simpa using hbefore⟩
  | true =>
    obtain ⟨behind, h⟩ := Text.trimEnd_prefix rest
    exact ⟨before, behind, by rw [hbefore]; exact congrArg _ h.symm⟩

theorem HasPair.of_cutLiteral {p : Char} {atStart atEnd : Bool}
    (h : HasPair p (cutLiteral atStart atEnd cs)) : HasPair p cs := by
  obtain ⟨before, behind, hcs⟩ := exists_cutLiteral atStart atEnd cs
  exact hcs ▸ (h.append_right behind).append_left before

theorem HasOpener.of_cutLiteral {atStart atEnd : Bool} {later : Prop}
    (h : HasOpener (cutLiteral atStart atEnd cs) later) : HasOpener cs later := by
  obtain ⟨before, behind, hcs⟩ := exists_cutLiteral atStart atEnd cs
  obtain ⟨start, after, hcut, hfield, hlater⟩ := h
  rw [hcut] at hcs
  refine ⟨before ++ start, after ++ behind, by rw [hcs]; simp, opensField_append hfield _, ?_⟩
  exact hlater.imp (fun hpair => hpair.append_right behind) id

/-- The text has the segments, if its leading white space is cut off where `trimmed` says so. -/
inductive Segmented : Bool → List Char → List Segment → Prop
  | last {trimmed : Bool} {cs : List Char} :
      ¬ HasPair '{' cs → Segmented trimmed cs (literalSegment (cutLiteral trimmed false cs))
  | placeholder {trimmed : Bool} {before inner rest : List Char} {field : String}
      {more : List Segment} :
      ¬ HasPair '{' (before ++ ['{']) → ¬ HasPair '}' (inner ++ ['}']) →
      (Action.ofInner inner).field? = some field →
      Segmented (Action.ofInner inner).trimAfter rest more →
      Segmented trimmed (before ++ '{' :: '{' :: (inner ++ '}' :: '}' :: rest))
        (literalSegment (cutLiteral trimmed (Action.ofInner inner).trimBefore before) ++
          .field field :: more)

section Equations

variable {before after inner rest : List Char} {field : String}

theorem segments_of_none (h : breakAtPair? '{' cs = none) :
    segments trimmed cs = .ok (literalSegment (cutLiteral trimmed false cs)) := by
  rw [segments]
  split
  · rfl
  · next h' => rw [h] at h'; cases h'

theorem segments_of_unclosed (h : breakAtPair? '{' cs = some (before, after))
    (hclose : breakAtPair? '}' after = none) : segments trimmed cs = .error .unclosed := by
  rw [segments]
  split
  · next h' => rw [h] at h'; cases h'
  · next h' =>
    rw [h] at h'
    cases h'
    split
    · rfl
    · next hclose' => rw [hclose] at hclose'; cases hclose'

/-- Two pairs of braces are a placeholder with what is left of it, or a fault. -/
theorem segments_of_action (h : breakAtPair? '{' cs = some (before, after))
    (hclose : breakAtPair? '}' after = some (inner, rest)) :
    segments trimmed cs = match (Action.ofInner inner).field? with
      | none => .error (.unsupported (String.ofList (Action.ofInner inner).body))
      | some field => (segments (Action.ofInner inner).trimAfter rest).map fun more =>
          literalSegment (cutLiteral trimmed (Action.ofInner inner).trimBefore before) ++
            .field field :: more := by
  rw [segments]
  split
  · next h' => rw [h] at h'; cases h'
  · next h' =>
    rw [h] at h'
    cases h'
    split
    · next hclose' => rw [hclose] at hclose'; cases hclose'
    · next hclose' =>
      rw [hclose] at hclose'
      cases hclose'
      rfl

end Equations

theorem segmented_of_segments (h : segments trimmed cs = .ok segs) : Segmented trimmed cs segs := by
  induction trimmed, cs using segments.induct generalizing segs with
  | case1 trimmed cs hopen =>
    rw [segments_of_none hopen] at h
    cases h
    exact .last (breakAtPair?_eq_none_iff.1 hopen)
  | case2 trimmed cs before after hopen hclose =>
    rw [segments_of_unclosed hopen hclose] at h
    cases h
  | case3 trimmed cs before after hopen inner rest hclose action =>
    rename_i hfield
    rw [segments_of_action hopen hclose, hfield] at h
    cases h
  | case4 trimmed cs before after hopen inner rest hclose action field hfield =>
    rename_i ih
    rw [segments_of_action hopen hclose, hfield] at h
    obtain ⟨more, hmore, rfl⟩ := Outcome.map_eq_ok_iff.1 h
    rw [breakAtPair?_eq hopen, breakAtPair?_eq hclose]
    exact .placeholder (not_hasPair_of_breakAtPair? hopen) (not_hasPair_of_breakAtPair? hclose)
      hfield (ih hmore)

/-- Whether there is a placeholder is decided by whether two braces are found. -/
theorem hasPlaceholders_iff {text : String} :
    hasPlaceholders text = true ↔ HasPair '{' (toBraces text.toList) := by
  rw [← not_iff_not, ← breakAtPair?_eq_none_iff, hasPlaceholders, segmentsOf]
  cases hopen : breakAtPair? '{' (toBraces text.toList) with
  | none =>
    rw [segments_of_none hopen]
    cases cutLiteral false false (toBraces text.toList) <;> simp [literalSegment, Segment.isField]
  | some split =>
    obtain ⟨before, after⟩ := split
    refine iff_of_false (not_not.2 ?_) nofun
    cases hclose : breakAtPair? '}' after with
    | none => rw [segments_of_unclosed hopen hclose]
    | some split' =>
      rw [segments_of_action hopen hclose]
      cases (Action.ofInner split'.1).field? with
      | none => rfl
      | some field =>
        cases segments (Action.ofInner split'.1).trimAfter split'.2 with
        | error fault => rfl
        | ok more => simp [Segment.isField, Except.map]

/-- Every placeholder starts with a brace or a bracket. -/
theorem hasPlaceholders_of_not_mem {text : String} (hbrace : '{' ∉ text.toList)
    (hbracket : '[' ∉ text.toList) : hasPlaceholders text = false := by
  rw [Bool.eq_false_iff, ne_eq, hasPlaceholders_iff, hasPair_toBraces_iff]
  rintro (hpair | ⟨before, after, htext, -⟩)
  · exact hbrace hpair.mem
  · rw [htext] at hbracket
    simp at hbracket

/-! ### Literals that reopen -/

/-- A literal has a closing pair of brackets. -/
def Closes (segs : List Segment) : Prop := ∃ text, .literal text ∈ segs ∧ HasPair ']' text

/-- Brackets in a literal look like an opener, which is closed in it or in a later literal. -/
def Reopens (segs : List Segment) : Prop :=
  ∃ before text behind, segs = before ++ .literal text :: behind ∧ HasOpener text (Closes behind)

theorem not_closes_nil : ¬ Closes [] := by
  rintro ⟨text, h, -⟩
  cases h

theorem closes_literal : Closes (literalSegment cs ++ more) ↔ HasPair ']' cs ∨ Closes more := by
  cases cs with
  | nil => simp [literalSegment, not_hasPair_nil]
  | cons c cs => simp [literalSegment, Closes, or_and_right, exists_or]

theorem closes_last : Closes (literalSegment cs) ↔ HasPair ']' cs := by
  rw [← List.append_nil (literalSegment cs), closes_literal]
  exact or_iff_left not_closes_nil

theorem closes_field {name : String} : Closes (.field name :: more) ↔ Closes more := by
  simp [Closes]

theorem not_reopens_nil : ¬ Reopens [] := by
  rintro ⟨before, text, behind, h, -⟩
  simp at h

theorem reopens_cons {s : Segment} : Reopens (s :: more) ↔
    (∃ text, s = .literal text ∧ HasOpener text (Closes more)) ∨ Reopens more := by
  constructor
  · rintro ⟨before, text, behind, h, hopener⟩
    cases before with
    | nil =>
      obtain ⟨rfl, rfl⟩ := List.cons.inj h
      exact .inl ⟨text, rfl, hopener⟩
    | cons _ before => exact .inr ⟨before, text, behind, (List.cons.inj h).2, hopener⟩
  · rintro (⟨text, rfl, hopener⟩ | ⟨before, text, behind, rfl, hopener⟩)
    · exact ⟨[], text, more, rfl, hopener⟩
    · exact ⟨s :: before, text, behind, rfl, hopener⟩

theorem reopens_literal :
    Reopens (literalSegment cs ++ more) ↔ HasOpener cs (Closes more) ∨ Reopens more := by
  cases cs with
  | nil => simp [literalSegment, not_hasOpener_nil]
  | cons c cs => simp [literalSegment, reopens_cons]

theorem reopens_last : Reopens (literalSegment cs) ↔ HasOpener cs False := by
  rw [← List.append_nil (literalSegment cs), reopens_literal, eq_false not_closes_nil]
  exact or_iff_left not_reopens_nil

theorem reopens_field {name : String} : Reopens (.field name :: more) ↔ Reopens more := by
  simp [reopens_cons]

/-! ### Filling in -/

/-- The text has no brackets or opening braces, and neither it nor anything that starts with it
starts like a field reference. -/
structure IsInert (v : List Char) : Prop where
  ne_nil : v ≠ []
  not_mem : '[' ∉ v ∧ ']' ∉ v ∧ '{' ∉ v
  start : ∀ behind, opensField (v ++ behind) = false

section Inert

variable {v as bs : List Char} {later : Prop}

theorem IsInert.opensField_append (hv : IsInert v) (as bs : List Char) :
    opensField (as ++ (v ++ bs)) = opensField as := by
  induction as with
  | nil => exact hv.start bs
  | cons a as ih => rw [List.cons_append, opensField_cons, opensField_cons, ih]

theorem hasOpener_append_inert (hv : IsInert v) :
    HasOpener (as ++ (v ++ bs)) later ↔
      HasOpener as (HasPair ']' bs ∨ later) ∨ HasOpener bs later := by
  obtain ⟨hopen, hclose, -⟩ := hv.not_mem
  constructor
  · rintro ⟨before, after, h, hfield, hlater⟩
    rcases List.append_eq_append_iff.1 h with ⟨s, rfl, hs⟩ | ⟨s, rfl, hs⟩
    · -- the brackets stand behind the first text, and not in the second
      rcases List.append_eq_append_iff.1 hs with ⟨u, rfl, rfl⟩ | ⟨u, rfl, hu⟩
      · exact .inr ⟨u, after, rfl, hfield, hlater⟩
      · cases u with
        | nil => exact .inr ⟨[], after, hu.symm, hfield, hlater⟩
        | cons c u =>
          obtain ⟨rfl, -⟩ := List.cons.inj hu
          exact absurd (List.mem_append_right _ List.mem_cons_self) hopen
    · obtain ⟨c, v', rfl⟩ := List.exists_cons_of_ne_nil hv.ne_nil
      rcases s with _ | ⟨d, _ | ⟨e, s⟩⟩
      · exact absurd ((List.cons.inj hs).1 ▸ List.mem_cons_self) hopen
      · exact absurd ((List.cons.inj (List.cons.inj hs).2).1 ▸ List.mem_cons_self) hopen
      · simp only [List.cons_append, List.cons.injEq] at hs
        obtain ⟨rfl, rfl, rfl⟩ := hs
        rw [← List.cons_append] at hfield hlater
        rw [hv.opensField_append] at hfield
        rw [hasPair_append_of_not_mem hv.ne_nil hclose, or_assoc] at hlater
        exact .inl ⟨before, s, rfl, hfield, hlater⟩
  · rintro (⟨before, after, rfl, hfield, hlater⟩ | ⟨before, after, rfl, hfield, hlater⟩)
    · refine ⟨before, after ++ (v ++ bs), by simp, ?_, ?_⟩
      · rwa [hv.opensField_append]
      · rwa [hasPair_append_of_not_mem hv.ne_nil hclose, or_assoc]
    · exact ⟨as ++ (v ++ before), after, by simp, hfield, hlater⟩

end Inert

section Fill

variable {b : Bindings}

theorem flatMap_fill_literal :
    (literalSegment cs ++ more).flatMap (Segment.fill b) =
      cs ++ more.flatMap (Segment.fill b) := by
  cases cs <;> rfl

theorem flatMap_fill_last : (literalSegment cs).flatMap (Segment.fill b) = cs := by
  rw [← List.append_nil (literalSegment cs), flatMap_fill_literal, List.flatMap_nil,
    List.append_nil]

theorem undefinedField?_eq_none_iff :
    undefinedField? b segs = none ↔ ∀ name, .field name ∈ segs → (b.value? name).isSome := by
  rw [undefinedField?, List.findSome?_eq_none_iff]
  constructor
  · intro h name hname
    have hfield := h _ hname
    cases hvalue : b.value? name with
    | none => simp [hvalue] at hfield
    | some value => rfl
  · intro h s hs
    cases s with
    | literal text => rfl
    | field name => simp [Option.isSome_iff_ne_none.1 (h name hs)]

/-- Substituting succeeds where there are segments and all their fields have values. -/
theorem substitute_eq_ok_iff {text filled : String} : substitute b text = .ok filled ↔
    ∃ segs, segmentsOf text = .ok segs ∧ (∀ name, .field name ∈ segs → (b.value? name).isSome) ∧
      filled = String.ofList (segs.flatMap (Segment.fill b)) := by
  rw [substitute]
  cases segmentsOf text with
  | error fault => simp
  | ok segs =>
    simp only [Except.ok.injEq, exists_eq_left', ← undefinedField?_eq_none_iff]
    cases undefinedField? b segs with
    | none => simp [eq_comm]
    | some field => simp

/-- Every field that is there has an inert value. -/
def FillsInert (b : Bindings) (segs : List Segment) : Prop :=
  ∀ name, .field name ∈ segs → IsInert ((b.value? name).getD "").toList

theorem fillsInert_placeholder {name : String}
    (h : FillsInert b (literalSegment cs ++ .field name :: more)) :
    IsInert ((b.value? name).getD "").toList ∧ FillsInert b more := by
  refine ⟨h name (by simp), fun other hother => h other ?_⟩
  simp [hother]

/-- Filling in does not make braces. -/
theorem Segmented.not_hasPair_fill (h : Segmented trimmed cs segs) (hb : FillsInert b segs) :
    ¬ HasPair '{' (segs.flatMap (Segment.fill b)) := by
  induction h with
  | last hcs =>
    rw [flatMap_fill_last]
    exact fun hpair => hcs hpair.of_cutLiteral
  | placeholder hbefore _ _ _ ih =>
    obtain ⟨hvalue, hmore⟩ := fillsInert_placeholder hb
    rw [flatMap_fill_literal, List.flatMap_cons, Segment.fill,
      hasPair_append_of_not_mem hvalue.ne_nil hvalue.not_mem.2.2, not_or]
    exact ⟨fun hpair => hbefore (hpair.of_cutLiteral.append_right _), ih hmore⟩

theorem Segmented.hasPair_fill_iff (h : Segmented trimmed cs segs) (hb : FillsInert b segs) :
    HasPair ']' (segs.flatMap (Segment.fill b)) ↔ Closes segs := by
  induction h with
  | last => rw [flatMap_fill_last, closes_last]
  | placeholder _ _ _ _ ih =>
    obtain ⟨hvalue, hmore⟩ := fillsInert_placeholder hb
    rw [flatMap_fill_literal, List.flatMap_cons, Segment.fill,
      hasPair_append_of_not_mem hvalue.ne_nil hvalue.not_mem.2.1, closes_literal, closes_field,
      ih hmore]

/-- What is filled in has an opener exactly if the literals reopen. -/
theorem Segmented.hasOpener_fill_iff (h : Segmented trimmed cs segs) (hb : FillsInert b segs) :
    HasOpener (segs.flatMap (Segment.fill b)) False ↔ Reopens segs := by
  induction h with
  | last => rw [flatMap_fill_last, reopens_last]
  | placeholder _ _ _ hrest ih =>
    obtain ⟨hvalue, hmore⟩ := fillsInert_placeholder hb
    rw [flatMap_fill_literal, List.flatMap_cons, Segment.fill, hasOpener_append_inert hvalue,
      reopens_literal, reopens_field, closes_field, or_false, hrest.hasPair_fill_iff hmore,
      ih hmore]

end Fill

/-- With inert values, what is filled in has placeholders exactly if the literals reopen. -/
theorem hasPlaceholders_fill_iff {b : Bindings} {text : String}
    (h : segmentsOf text = .ok segs) (hb : FillsInert b segs) :
    hasPlaceholders (String.ofList (segs.flatMap (Segment.fill b))) = true ↔ Reopens segs := by
  have hsegs := segmented_of_segments h
  rw [hasPlaceholders_iff, String.toList_ofList, hasPair_toBraces_iff,
    hsegs.hasOpener_fill_iff hb]
  exact or_iff_right (hsegs.not_hasPair_fill hb)

/-- Inert text at the end neither adds placeholders nor takes them away. -/
theorem hasPlaceholders_append_inert {v : String} (hv : IsInert v.toList) (text : String) :
    hasPlaceholders (text ++ v) = hasPlaceholders text := by
  rw [Bool.eq_iff_iff, hasPlaceholders_iff, hasPlaceholders_iff, hasPair_toBraces_iff,
    hasPair_toBraces_iff, String.toList_append, ← List.append_nil v.toList,
    hasPair_append_of_not_mem hv.ne_nil hv.not_mem.2.2, hasOpener_append_inert hv]
  simp [not_hasPair_nil, not_hasOpener_nil]

/-! ### Placeholders that mix notations -/

/-- Between the brackets of a placeholder there are two closing braces. -/
def Mixes (cs : List Char) : Prop := ∃ inner, Encloses cs inner ∧ HasPair '}' inner

/-- Wherever two braces open, two braces close behind them. -/
def Closed (cs : List Char) : Prop :=
  ∀ start rest, cs = start ++ '{' :: '{' :: rest → HasPair '}' rest

theorem closed_of_not_hasPair (h : ¬ HasPair '{' cs) : Closed cs :=
  fun start rest hcs => absurd ⟨start, rest, hcs⟩ h

/-- Whatever stands before them, two closing braces leave nothing open. -/
theorem Closed.append (h : Closed cs) (as : List Char) : Closed (as ++ '}' :: '}' :: cs) := by
  intro start rest hsplit
  rcases pairs_apart (by decide) hsplit with ⟨s, -, hs⟩ | ⟨s, -, rfl⟩
  · exact h s rest hs
  · exact ⟨s, cs, rfl⟩

theorem Segmented.hasPair_of_closes (h : Segmented trimmed cs segs) (hcloses : Closes segs) :
    HasPair ']' cs := by
  induction h with
  | last => exact (closes_last.1 hcloses).of_cutLiteral
  | @placeholder _ before inner _ _ _ _ _ _ _ ih =>
    rw [closes_literal, closes_field] at hcloses
    rcases hcloses with hpair | hmore
    · exact hpair.of_cutLiteral.append_right _
    · have hrest := (ih hmore).append_left ('{' :: '{' :: (inner ++ ['}', '}']))
      have hall := hrest.append_left before
      rwa [List.cons_append, List.cons_append, List.append_assoc] at hall

/-- If literals reopen, the text has an opener outside of its placeholders. -/
theorem Segmented.exists_opener (h : Segmented trimmed cs segs) (hreopens : Reopens segs) :
    ∃ before after, cs = before ++ '[' :: '[' :: after ∧ opensField after = true ∧
      HasPair ']' after ∧ Closed before := by
  induction h with
  | last hcs =>
    obtain ⟨before, after, rfl, hfield, hpair⟩ := (reopens_last.1 hreopens).of_cutLiteral
    refine ⟨before, after, rfl, hfield, hpair.resolve_right id, ?_⟩
    exact closed_of_not_hasPair fun hpair => hcs (hpair.append_right _)
  | @placeholder _ literal inner rest _ _ hliteral _ _ hrest ih =>
    rw [reopens_literal, reopens_field, closes_field] at hreopens
    rcases hreopens with hopener | hmore
    · obtain ⟨before, after, rfl, hfield, hlater⟩ := hopener.of_cutLiteral
      refine ⟨before, after ++ '{' :: '{' :: (inner ++ '}' :: '}' :: rest), by simp,
        opensField_append hfield _, ?_, ?_⟩
      · rcases hlater with hpair | hcloses
        · exact hpair.append_right _
        · have hpair := (hrest.hasPair_of_closes hcloses).append_left
            (after ++ '{' :: '{' :: (inner ++ ['}', '}']))
          simpa using hpair
      · refine closed_of_not_hasPair fun hpair => hliteral ?_
        exact (hpair.append_right _).append_right _
    · obtain ⟨before, after, rfl, hfield, hpair, hclosed⟩ := ih hmore
      refine ⟨(literal ++ '{' :: '{' :: inner) ++ '}' :: '}' :: before, after, by simp, hfield,
        hpair, hclosed.append _⟩

/-- Literals reopen only where a placeholder in bracket notation mixes the notations. -/
theorem mixes_of_reopens {text : String} (h : segmentsOf text = .ok segs)
    (hreopens : Reopens segs) : Mixes text.toList := by
  obtain ⟨before, after, hsplit, hfield, hpair, hclosed⟩ :=
    (segmented_of_segments h).exists_opener hreopens
  obtain ⟨start, outer, inner, hencloses, rfl⟩ :=
    (rewritten_toBraces text.toList).nested hsplit hfield hpair
  exact ⟨_, hencloses, (hclosed start outer rfl).append_right _⟩

end AlertRules.Placeholder
