/-
AlertRules/Proofs/Placeholder/Adjacent.lean

One reference between two literals.  In either notation it is found and filled in, unless the
literal before it ends in a brace.  Then that brace and the first brace of the reference, once it
is in braces, are the first two in a row: what is read from there on begins with the second brace
of the reference, which is no field reference, and the text is refused whatever the values are.

So brackets do not keep a reference apart from the braces of a query.  A bracket before a reference
does no harm, because two brackets count as an opener only if a field reference follows them; two
braces always count.
-/
import AlertRules.Proofs.Placeholder.Notation

namespace AlertRules.Placeholder

variable {pre post : List Char}

/-- Text without two brackets or two braces in a row that could open a placeholder. -/
def IsLiteral (cs : List Char) : Prop := ¬ HasPair '[' cs ∧ ¬ HasPair '{' cs

instance {cs : List Char} : Decidable (IsLiteral cs) := inferInstanceAs (Decidable (_ ∧ _))

namespace Reference

/-- The reference with text before and behind it. -/
def between (r : Reference) (pre post : List Char) : String :=
  String.ofList (pre ++ (r.chars ++ post))

theorem blank_of_mem_space : ∀ c ∈ [' '], c = ' ' ∨ c = '\t' :=
  fun _ hc => .inl (List.mem_singleton.1 hc)

/-- The reference in brackets, with a space on either side of the field. -/
def spaced (field : Field) : Reference where
  delimiter := .bracket
  field := field
  lead := [' ']
  trail := [' ']
  lead_blank := blank_of_mem_space
  trail_blank := blank_of_mem_space
  lead_ne_nil := fun _ => List.cons_ne_nil _ _
  trail_ne_nil := fun _ => List.cons_ne_nil _ _

/-- What is read as the body of the action if a brace stands before the reference. -/
def shifted (r : Reference) : List Char := '{' :: (mark r.cutsBefore ++ r.body)

/-- What is written for the reference and the literals around it when it has a value. -/
def filled (r : Reference) (pre post : List Char) (value : String) : String :=
  String.ofList (cutLiteral false r.cutsBefore pre ++
    (value.toList ++ cutLiteral r.cutsAfter false post))

variable (r : Reference)

/-! ### Behind a brace -/

theorem toBraces_between (hpre : IsLiteral pre) (hpost : IsLiteral post) :
    toBraces (pre ++ (r.chars ++ post)) =
      pre ++ '{' :: '{' :: (r.inner ++ '}' :: '}' :: post) := by
  have hbehind : toBraces post = post := by
    rw [toBraces_eq_self_iff]
    rintro ⟨before, after, rfl, -⟩
    exact hpost.1 ⟨before, after, rfl⟩
  have hseam : ∀ c ∈ pre.getLast?, ¬ StartsOpener (c :: (r.chars ++ post)) :=
    fun c _ => not_startsOpener_enclose r r.delimiter c post
  rw [toBraces_append hpre.1 hseam, chars, toBraces_enclose, hbehind, r.enclose_append]
  rfl

/-- The brace in front keeps the mark before the field from being seen as one. -/
theorem ofInner_shifted :
    Action.ofInner ('{' :: r.inner) = ⟨false, r.cutsAfter, r.shifted⟩ := by
  have hbefore : stripMark ('{' :: r.inner) = (false, '{' :: r.inner) := rfl
  have hafter : stripMark ('{' :: r.inner).reverse = (r.cutsAfter, r.shifted.reverse) := by
    have hstrip := r.stripMark_reverse ('{' :: mark r.cutsBefore)
    simpa only [inner, shifted, List.cons_append, List.append_assoc] using hstrip
  rw [Action.ofInner, hbefore]
  simp only [hafter, List.reverse_reverse]

theorem field?_shifted : (Action.ofInner ('{' :: r.inner)).field? = none := by
  cases hfield : (Action.ofInner ('{' :: r.inner)).field? with
  | none => rfl
  | some field => exact absurd List.mem_cons_self (not_mem_of_field? hfield (by decide))

theorem segmentsOf_behind_brace (hpre : IsLiteral pre) (hpost : IsLiteral post)
    (hlast : pre.getLast? = some '{') :
    segmentsOf (r.between pre post) = .error (.unsupported (String.ofList r.shifted)) := by
  obtain ⟨before, rfl⟩ := List.getLast?_eq_some_iff.1 hlast
  -- the brace of the literal and the first one of the reference
  have hopen : breakAtPair? '{' (before ++ ['{'] ++ '{' :: '{' ::
      (r.inner ++ '}' :: '}' :: post)) = some (before, '{' :: (r.inner ++ '}' :: '}' :: post)) := by
    rw [List.append_assoc]
    exact breakAtPair?_append hpre.2 _
  have hclose : breakAtPair? '}' ('{' :: r.inner ++ '}' :: '}' :: post) =
      some ('{' :: r.inner, post) := by
    refine breakAtPair?_append ?_ post
    rw [List.cons_append, hasPair_cons, not_or]
    exact ⟨fun h => absurd h.1 (by decide), r.not_hasPair_inner (by decide)⟩
  rw [segmentsOf, between, String.toList_ofList, r.toBraces_between hpre hpost,
    segments_of_action hopen hclose, r.field?_shifted, r.ofInner_shifted]

/-! ### Behind anything else -/

/-- The reference and the literals as a template. -/
def templateBetween (hpre : IsLiteral pre) (hpost : IsLiteral post)
    (hlast : pre.getLast? ≠ some '{') : Template where
  pieces := [⟨pre, r, hpre.1, hpre.2, hlast⟩]
  last := post
  no_brackets := hpost.1
  no_braces := hpost.2

theorem substitute_behind_other (hpre : IsLiteral pre) (hpost : IsLiteral post)
    (hlast : pre.getLast? ≠ some '{') (b : Bindings) :
    substitute b (r.between pre post) = match b.get r.field with
      | none => .error (.undefinedField r.field.name (r.between pre post))
      | some value => .ok (r.filled pre post value) := by
  have htext : (r.templateBetween hpre hpost hlast).text = r.between pre post := by
    simp [templateBetween, Template.text, Piece.chars, between]
  have hsubstitute := substitute_template b (r.templateBetween hpre hpost hlast)
  rw [htext] at hsubstitute
  rw [hsubstitute]
  cases hvalue : b.get r.field with
  | none => simp [templateBetween, Template.firstUnbound?, hvalue]
  | some value =>
    simp [templateBetween, Template.firstUnbound?, Template.filled, fillPieces, filled, hvalue]

end Reference

/-! ### Between any two literals -/

/-- A reference between two literals is filled in, if its field has a value, exactly if the text
before it does not end in a brace.  If it does, the text is refused whatever the values are, and
what is reported as unsupported is the reference with a brace in front. -/
theorem substitute_between (r : Reference) (hpre : IsLiteral pre) (hpost : IsLiteral post)
    (b : Bindings) :
    substitute b (r.between pre post) =
      if pre.getLast? = some '{' then
        .error (.malformed (r.between pre post)
          (Fault.unsupported (String.ofList r.shifted)).message)
      else match b.get r.field with
        | none => .error (.undefinedField r.field.name (r.between pre post))
        | some value => .ok (r.filled pre post value) := by
  by_cases hlast : pre.getLast? = some '{'
  · rw [if_pos hlast, substitute, r.segmentsOf_behind_brace hpre hpost hlast]
  · rw [if_neg hlast, r.substitute_behind_other hpre hpost hlast]

/-- A threshold as the repetition in a pattern, with and without a space before it. -/
theorem substitute_between_repetition :
    (IsLiteral "up\x7ba=~\"[0-9]\x7b".toList ∧ IsLiteral "up\x7ba=~\"[0-9]\x7b ".toList ∧
      IsLiteral "\x7d\"\x7d".toList) ∧
    (∀ b, substitute b "up\x7ba=~\"[0-9]\x7b[[ .Threshold ]]\x7d\"\x7d" =
      .error (.malformed "up\x7ba=~\"[0-9]\x7b[[ .Threshold ]]\x7d\"\x7d"
        "unsupported placeholder \x7b\x7b\x7b .Threshold \x7d\x7d")) ∧
    substitute ⟨some "3", none⟩ "up\x7ba=~\"[0-9]\x7b [[ .Threshold ]]\x7d\"\x7d" =
      .ok "up\x7ba=~\"[0-9]\x7b 3\x7d\"\x7d" := by
  have hpre : IsLiteral "up\x7ba=~\"[0-9]\x7b".toList := by decide
  have hspace : IsLiteral "up\x7ba=~\"[0-9]\x7b ".toList := by decide
  have hpost : IsLiteral "\x7d\"\x7d".toList := by decide
  refine ⟨⟨hpre, hspace, hpost⟩, fun b => ?_, ?_⟩
  · exact substitute_between (.spaced .threshold) hpre hpost b
  · exact substitute_between (.spaced .threshold) hspace hpost ⟨some "3", none⟩

/-- A reference in brackets is not filled in behind every literal. -/
theorem not_always_filled : ¬ ∀ (b : Bindings) (field : Field) (value : String)
    (pre post : List Char), IsLiteral pre → pre.getLast? = some '{' → IsLiteral post →
    b.get field = some value →
    substitute b ((Reference.spaced field).between pre post) =
      .ok (String.ofList (pre ++ (value.toList ++ post))) := by
  intro hall
  have hfilled := hall ⟨some "3", none⟩ .threshold "3" "up\x7ba=~\"[0-9]\x7b".toList
    "\x7d\"\x7d".toList (by decide) (by decide) (by decide) rfl
  have hrefused : segmentsOf ((Reference.spaced .threshold).between "up\x7ba=~\"[0-9]\x7b".toList
      "\x7d\"\x7d".toList) = .error (.unsupported "\x7b .Threshold ") := by decide +kernel
  rw [substitute, hrefused] at hfilled
  cases hfilled

end AlertRules.Placeholder
