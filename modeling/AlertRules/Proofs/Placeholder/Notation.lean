/-
AlertRules/Proofs/Placeholder/Notation.lean

One placeholder in two notations.  An action is well formed if a placeholder of it in braces is
found to be nothing malformed; the question is whether the same action in brackets gets the same
answer, whatever harmless text surrounds the two (`Surrounds`).

In brackets an action counts only if a full stop comes behind nothing but minus signs, spaces and
tabs (`LeadsToPoint`), in braces other white space may stand there too.  Where it does not
matter, the rewriting of brackets makes the one text of the other, so all that follows is the
same (`segmentsOf_around`).  Where it does, the placeholder in brackets is not found, and the
text is given back with the brackets in it, whatever the values (`substitute_around_bracket`).
So for an action that has no closing braces in it, the notations agree exactly if it leads to
its full stop in this way (`notations_alike`).
-/
import AlertRules.Proofs.Placeholder.Detection
import AlertRules.Proofs.Placeholder.Template

namespace AlertRules.Placeholder

variable {b : Bindings} {pre body post cs inner : List Char}

/-! ### Texts with one action -/

/-- A text with an action between two pairs of delimiters. -/
def Delimiter.around (d : Delimiter) (pre body post : List Char) : String :=
  String.ofList (pre ++ d.opener :: d.opener :: (body ++ d.closer :: d.closer :: post))

/-- No bracket or brace stands twice in a row. -/
def IsClear (cs : List Char) : Prop := ∀ p ∈ ['[', ']', '{', '}'], ¬ HasPair p cs

/-- Text before and behind a placeholder that has no part in it. -/
structure Surrounds (pre post : List Char) : Prop where
  before : IsClear pre
  last : ∀ c ∈ pre.getLast?, c ≠ '[' ∧ c ≠ '{'
  behind : IsClear post

theorem surrounds_nil : Surrounds [] [] :=
  ⟨fun p _ => not_hasPair_nil p, nofun, fun p _ => not_hasPair_nil p⟩

/-- A placeholder of the action alone, in braces, is not malformed. -/
def IsWellFormed (body : List Char) : Prop :=
  ∀ b template reason,
    substitute b (Delimiter.brace.around [] body []) ≠ .error (.malformed template reason)

/-- Only minus signs, spaces and tabs stand before the first full stop. -/
def LeadsToPoint (cs : List Char) : Prop :=
  ∃ lead more, cs = lead ++ '.' :: more ∧ ∀ c ∈ lead, c = '-' ∨ c = ' ' ∨ c = '\t'

theorem opensField_iff : opensField cs = true ↔ LeadsToPoint cs := by
  have hlead : ∀ {c}, isLead c = true ↔ c = '-' ∨ c = ' ' ∨ c = '\t' := by
    intro c
    simp [isLead, or_assoc]
  constructor
  · intro h
    induction cs with
    | nil => cases h
    | cons c cs ih =>
      rw [opensField_cons] at h
      split at h
      · next hc =>
        obtain ⟨lead, more, rfl, hmore⟩ := ih h
        exact ⟨c :: lead, more, rfl, List.forall_mem_cons.2 ⟨hlead.1 hc, hmore⟩⟩
      · exact ⟨[], cs, by rw [beq_iff_eq.1 h]; rfl, nofun⟩
  · rintro ⟨lead, more, rfl, hmore⟩
    exact opensField_lead (fun c hc => hlead.2 (hmore c hc)) more

/-! ### Answers -/

/-- The same text, or an error of one kind, about the same field or for the same reason.  The
texts that the errors quote may differ. -/
def AnswersAlike : Except Error String → Except Error String → Prop
  | .ok filled, .ok filled' => filled = filled'
  | .error (.undefinedField field _), .error (.undefinedField field' _) => field = field'
  | .error (.malformed _ reason), .error (.malformed _ reason') => reason = reason'
  | _, _ => False

/-- Texts with the same segments have the same answers. -/
theorem answersAlike_of_segmentsOf {text text' : String} (h : segmentsOf text = segmentsOf text')
    (b : Bindings) : AnswersAlike (substitute b text) (substitute b text') := by
  rw [substitute, substitute, h]
  cases segmentsOf text' with
  | error fault => rfl
  | ok segs =>
    simp only
    cases undefinedField? b segs <;> rfl

/-- Whatever surrounds it and whatever the values are, the action gets the same answer in
brackets as in braces. -/
def NotationsAgree (body : List Char) : Prop :=
  ∀ pre post, Surrounds pre post → ∀ b,
    AnswersAlike (substitute b (Delimiter.bracket.around pre body post))
      (substitute b (Delimiter.brace.around pre body post))

/-! ### Where both notations are found -/

theorem toBraces_around_brace (h : Surrounds pre post) (hclose : ¬ HasPair ']' body) :
    toBraces (pre ++ '{' :: '{' :: (body ++ '}' :: '}' :: post)) =
      pre ++ '{' :: '{' :: (body ++ '}' :: '}' :: post) := by
  -- an opener needs a pair of closing brackets, and there is none
  have hpair : ¬ HasPair ']' (pre ++ (['{', '{'] ++ (body ++ (['}', '}'] ++ post)))) := by
    rw [hasPair_append_of_not_mem (by decide) (by decide),
      hasPair_append_of_not_mem (by decide) (by decide), not_or, not_or]
    exact ⟨h.before _ (by decide), hclose, h.behind _ (by decide)⟩
  rw [toBraces_eq_self_iff]
  rintro ⟨before, after, hsplit, -, hafter⟩
  refine hpair ?_
  have hwhole := (hafter.resolve_right id).append_left (before ++ ['[', '['])
  rw [List.append_assoc] at hwhole
  exact hsplit ▸ hwhole

theorem not_startsOpener_cons {c : Char} (h : c ≠ '[') : ¬ StartsOpener (c :: cs) := by
  rintro ⟨after, hstart, -⟩
  exact h (List.cons.inj hstart).1

theorem toBraces_behind (h : Surrounds pre post) : toBraces post = post := by
  rw [toBraces_eq_self_iff]
  rintro ⟨before, after, rfl, -⟩
  exact h.behind '[' (by decide) ⟨before, after, rfl⟩

/-- What stands before brackets makes no opener with them. -/
theorem toBraces_before (h : Surrounds pre post) (cs : List Char) :
    toBraces (pre ++ cs) = pre ++ toBraces cs :=
  toBraces_append (h.before '[' (by decide)) fun c hc => not_startsOpener_cons (h.last c hc).1

theorem toBraces_around_bracket (h : Surrounds pre post) (hfield : opensField body = true)
    (hclose : ¬ HasPair ']' (body ++ [']'])) :
    toBraces (pre ++ '[' :: '[' :: (body ++ ']' :: ']' :: post)) =
      pre ++ '{' :: '{' :: (body ++ '}' :: '}' :: post) := by
  rw [toBraces_before h, toBraces_placeholder hfield hclose, toBraces_behind h]

/-- Where the placeholder in brackets is found, the rewriting makes it the one in braces. -/
theorem segmentsOf_around (h : Surrounds pre post) (hpoint : LeadsToPoint body)
    (hclose : ¬ HasPair ']' (body ++ [']'])) :
    segmentsOf (Delimiter.bracket.around pre body post) =
      segmentsOf (Delimiter.brace.around pre body post) := by
  have hbody : ¬ HasPair ']' body := fun hpair => hclose (hpair.append_right _)
  rw [segmentsOf, segmentsOf, Delimiter.around, Delimiter.around, String.toList_ofList,
    String.toList_ofList]
  exact congrArg (segments false) ((toBraces_around_bracket h (opensField_iff.2 hpoint)
    hclose).trans (toBraces_around_brace h hbody).symm)

/-! ### Actions -/

theorem mem_stripMark {c : Char} (h : c ∈ cs) : c = '-' ∨ c ∈ (stripMark cs).2 := by
  unfold stripMark
  split
  · split
    · exact List.mem_cons.1 h
    · exact .inr h
  · exact .inr h

theorem isIdentifierPart_of_mem {name : List Char} (h : isIdentifier name = true) :
    ∀ c ∈ name, isIdentifierPart c = true := by
  cases name with
  | nil => nofun
  | cons a name =>
    rw [isIdentifier, Bool.and_eq_true, List.all_eq_true] at h
    refine List.forall_mem_cons.2 ⟨?_, h.2⟩
    rcases Bool.or_eq_true_iff.1 h.1 with halpha | hscore
    · exact Bool.or_eq_true_iff.2 (.inl (Bool.or_eq_true_iff.2 (.inl halpha)))
    · exact Bool.or_eq_true_iff.2 (.inr hscore)

/-- An action that refers to a field has no brackets or braces in it. -/
theorem not_mem_of_field? {field : String} (h : (Action.ofInner inner).field? = some field)
    {c : Char} (hc : c ∈ ['[', ']', '{', '}']) : c ∉ inner := by
  intro hinner
  have hbody : c = '-' ∨ c ∈ (Action.ofInner inner).body := by
    rcases mem_stripMark hinner with hmark | hrest
    · exact .inl hmark
    · rcases mem_stripMark (List.mem_reverse.2 hrest) with hmark | hrest
      · exact .inl hmark
      · exact .inr (List.mem_reverse.2 hrest)
  have hclass : c = '-' ∨ Text.isBlank c = true ∨ c = '.' ∨ isIdentifierPart c = true := by
    refine hbody.imp_right fun hmem => (Text.isBlank_or_mem_trim hmem).imp_right fun htrim => ?_
    unfold Action.field? at h
    split at h
    · next name hname =>
      split at h
      · next hident =>
        rw [hname] at htrim
        exact (List.mem_cons.1 htrim).imp_right (isIdentifierPart_of_mem hident c)
      · cases h
    · cases h
  simp only [List.mem_cons, List.not_mem_nil, or_false] at hc
  rcases hc with rfl | rfl | rfl | rfl
  all_goals
    revert hclass
    decide

/-- A part of the result without opening braces was there before the rewriting. -/
theorem Rewritten.exists_append {as bs : List Char} (h : Rewritten cs (as ++ bs))
    (hbrace : '{' ∉ as) : ∃ rest, cs = as ++ rest ∧ Rewritten rest bs := by
  induction as generalizing cs with
  | nil => exact ⟨cs, rfl, h⟩
  | cons a as ih =>
    rw [List.mem_cons, not_or] at hbrace
    rw [List.cons_append] at h
    generalize hout : as ++ bs = out at h
    cases h with
    | char _ hrest =>
      obtain ⟨rest, rfl, hbs⟩ := ih (hout ▸ hrest) hbrace.2
      exact ⟨rest, rfl, hbs⟩
    | placeholder => exact absurd rfl hbrace.1

/-- The braces that end a well-formed action are those behind it, or two before them. -/
theorem IsWellFormed.exists_inner (h : IsWellFormed body) :
    ∃ inner rest field, body ++ ['}', '}'] = inner ++ '}' :: '}' :: rest ∧
      (Action.ofInner inner).field? = some field := by
  -- the two braces in front are kept by the rewriting, and are the first two in a row
  have hrewritten : toBraces ('{' :: '{' :: (body ++ ['}', '}'])) =
      '{' :: '{' :: toBraces (body ++ ['}', '}']) := by
    rw [toBraces_cons (not_startsOpener_cons (by decide)),
      toBraces_cons (not_startsOpener_cons (by decide))]
  have hopen : breakAtPair? '{' ('{' :: '{' :: toBraces (body ++ ['}', '}'])) =
      some ([], toBraces (body ++ ['}', '}'])) := rfl
  have hsegments : segmentsOf (Delimiter.brace.around [] body []) =
      segments false ('{' :: '{' :: toBraces (body ++ ['}', '}'])) := by
    rw [← hrewritten, segmentsOf, Delimiter.around, String.toList_ofList]
    rfl
  have hfine : ∀ fault, segments false ('{' :: '{' :: toBraces (body ++ ['}', '}'])) ≠
      .error fault := fun fault hfault =>
    h .none _ _ (substitute_eq_malformed_iff.2 ⟨fault, hsegments.trans hfault, rfl, rfl⟩)
  cases hclose : breakAtPair? '}' (toBraces (body ++ ['}', '}'])) with
  | none => exact absurd (segments_of_unclosed hopen hclose) (hfine _)
  | some split =>
    obtain ⟨inner, rest⟩ := split
    have haction : segments false _ = _ := segments_of_action hopen hclose
    cases hfield : (Action.ofInner inner).field? with
    | none =>
      rw [hfield] at haction
      exact absurd haction (hfine _)
    | some field =>
      have hsplit : Rewritten (body ++ ['}', '}']) ((inner ++ ['}', '}']) ++ rest) := by
        have hrewritten := rewritten_toBraces (body ++ ['}', '}'])
        rw [breakAtPair?_eq hclose] at hrewritten
        simpa using hrewritten
      -- in front of the closing braces there are no others, so they have not come about
      have hbrace : '{' ∉ inner ++ ['}', '}'] := by
        have hinner := not_mem_of_field? hfield (c := '{') (by decide)
        simpa using hinner
      obtain ⟨rest', hrest', -⟩ := hsplit.exists_append hbrace
      exact ⟨inner, rest', field, by simpa using hrest', hfield⟩

/-- A well-formed action without two closing braces in it has no brackets or opening braces. -/
theorem IsWellFormed.not_mem (h : IsWellFormed body) (hclose : ¬ HasPair '}' body) {c : Char}
    (hc : c ∈ ['[', ']', '{']) : c ∉ body := by
  obtain ⟨inner, rest, field, hsplit, hfield⟩ := h.exists_inner
  have hinner : c ∉ inner := not_mem_of_field? hfield (by
    simp only [List.mem_cons, List.not_mem_nil, or_false] at hc ⊢
    tauto)
  have hne : c ≠ '}' := by
    rintro rfl
    exact absurd hc (by decide)
  intro hbody
  rcases List.append_eq_append_iff.1 hsplit with ⟨s, rfl, -⟩ | ⟨s, rfl, hs⟩
  · exact hinner (List.mem_append_left _ hbody)
  · -- at most one brace of the action's end is in it
    rcases s with _ | ⟨x, _ | ⟨y, s⟩⟩
    · exact hinner (by simpa using hbody)
    · obtain rfl : '}' = x := (List.cons.inj hs).1
      rcases List.mem_append.1 hbody with hmem | hmem
      · exact hinner hmem
      · exact hne (List.mem_singleton.1 hmem)
    · simp only [List.cons_append, List.cons.injEq] at hs
      obtain ⟨rfl, rfl, -⟩ := hs
      exact hclose ⟨inner, s, rfl⟩

/-! ### Where the placeholder in brackets is not found -/

theorem toBraces_of_not_opensField (h : Surrounds pre post) (hopen : '[' ∉ body)
    (hfield : opensField body = false) :
    toBraces (pre ++ '[' :: '[' :: (body ++ ']' :: ']' :: post)) =
      pre ++ '[' :: '[' :: (body ++ ']' :: ']' :: post) := by
  have hbehind : opensField (body ++ ']' :: ']' :: post) = false := by
    rw [opensField_append_cons rfl (by decide), hfield]
  have hfirst : ¬ StartsOpener ('[' :: '[' :: (body ++ ']' :: ']' :: post)) := by
    rintro ⟨after, hstart, hafter, -⟩
    cases hstart
    rw [hbehind] at hafter
    cases hafter
  have hsecond : ¬ StartsOpener ('[' :: (body ++ ']' :: ']' :: post)) := by
    rintro ⟨after, hstart, -⟩
    cases body with
    | nil => exact absurd (List.cons.inj (List.cons.inj hstart).2).1 (by decide)
    | cons c body => exact hopen ((List.cons.inj (List.cons.inj hstart).2).1 ▸ .head _)
  have hbody : toBraces (body ++ ']' :: ']' :: post) = body ++ toBraces (']' :: ']' :: post) :=
    toBraces_append (fun hpair => hopen hpair.mem) fun c hc =>
      not_startsOpener_cons fun heq => hopen (heq ▸ List.mem_of_getLast? hc)
  rw [toBraces_before h, toBraces_cons hfirst, toBraces_cons hsecond, hbody,
    toBraces_cons (not_startsOpener_cons (by decide)),
    toBraces_cons (not_startsOpener_cons (by decide)), toBraces_behind h]

/-- The text with an action that is not found in brackets is given back as it is. -/
theorem substitute_around_bracket (h : Surrounds pre post) (hbody : ∀ c ∈ ['[', '{'], c ∉ body)
    (hpoint : ¬ LeadsToPoint body) (b : Bindings) :
    substitute b (Delimiter.bracket.around pre body post) =
      .ok (Delimiter.bracket.around pre body post) := by
  refine substitute_of_not_hasPlaceholders ?_ b
  have hfield : opensField body = false :=
    Bool.eq_false_iff.2 fun hopens => hpoint (opensField_iff.1 hopens)
  have hbrace : '{' ∉ '[' :: '[' :: (body ++ [']', ']']) := by
    simpa using hbody '{' (by decide)
  rw [Bool.eq_false_iff, ne_eq, hasPlaceholders_iff, Delimiter.around, String.toList_ofList]
  show ¬ HasPair '{' (toBraces (pre ++ '[' :: '[' :: (body ++ ']' :: ']' :: post)))
  rw [toBraces_of_not_opensField h (hbody '[' (by decide)) hfield,
    show pre ++ '[' :: '[' :: (body ++ ']' :: ']' :: post) =
      pre ++ (('[' :: '[' :: (body ++ [']', ']'])) ++ post) by simp,
    hasPair_append_of_not_mem (List.cons_ne_nil _ _) hbrace, not_or]
  exact ⟨h.before _ (by decide), h.behind _ (by decide)⟩

/-- In braces the action is found, so without values the text is not filled in. -/
theorem substitute_none_around_brace (body : List Char) (filled : String) :
    substitute .none (Delimiter.brace.around [] body []) ≠ .ok filled := by
  intro hfilled
  have hno := not_hasPlaceholders_of_substitute hfilled
  rw [Bool.eq_false_iff, ne_eq, hasPlaceholders_iff, hasPair_toBraces_iff, Delimiter.around,
    String.toList_ofList] at hno
  exact hno (.inl ⟨[], _, rfl⟩)

/-- A well-formed action that leads to its full stop behind minus signs, spaces and tabs only gets
the same answer in both notations, unless brackets in it close it early.  If it has no closing
braces in it, this is so exactly then; otherwise the text with the action in brackets is given
back as it is. -/
theorem notations_alike (hbody : IsWellFormed body) :
    (LeadsToPoint body → ¬ HasPair ']' (body ++ [']']) → NotationsAgree body) ∧
    (¬ HasPair '}' body →
      (NotationsAgree body ↔ LeadsToPoint body) ∧
      (¬ LeadsToPoint body → ∀ pre post, Surrounds pre post → ∀ b,
        substitute b (Delimiter.bracket.around pre body post) =
          .ok (Delimiter.bracket.around pre body post))) := by
  have halike : LeadsToPoint body → ¬ HasPair ']' (body ++ [']']) → NotationsAgree body :=
    fun hpoint hclose pre post h => answersAlike_of_segmentsOf (segmentsOf_around h hpoint hclose)
  refine ⟨halike, fun hbraces => ?_⟩
  have hkept : ¬ LeadsToPoint body → ∀ pre post, Surrounds pre post → ∀ b,
      substitute b (Delimiter.bracket.around pre body post) =
        .ok (Delimiter.bracket.around pre body post) := by
    intro hpoint pre post h
    refine substitute_around_bracket h (fun c hc => hbody.not_mem hbraces ?_) hpoint
    simp only [List.mem_cons, List.not_mem_nil, or_false] at hc ⊢
    tauto
  refine ⟨⟨fun hagree => ?_, fun hpoint => halike hpoint ?_⟩, hkept⟩
  · by_contra hpoint
    -- one of the texts is filled in without values, the other is not
    have hanswers := hagree [] [] surrounds_nil .none
    rw [hkept hpoint [] [] surrounds_nil .none] at hanswers
    cases hbrace : substitute .none (Delimiter.brace.around [] body []) with
    | ok filled => exact substitute_none_around_brace body filled hbrace
    | error e =>
      rw [hbrace] at hanswers
      exact hanswers
  · have hbracket : ']' ∉ body := hbody.not_mem hbraces (by decide)
    rw [hasPair_append, not_or, not_or]
    refine ⟨fun hpair => hbracket hpair.mem, by simp [hasPair_cons, not_hasPair_nil], ?_⟩
    exact fun hlast => hbracket (List.mem_of_getLast? hlast.1)

/-- An action that starts on a line of its own. -/
def onOwnLine : List Char := "\n.Threshold ".toList

theorem isWellFormed_onOwnLine : IsWellFormed onOwnLine := by
  intro b template reason hmalformed
  obtain ⟨fault, hfault, -⟩ := substitute_eq_malformed_iff.1 hmalformed
  have hsegments : segmentsOf (Delimiter.brace.around [] onOwnLine []) =
      .ok [.field "Threshold"] := by decide +kernel
  rw [hsegments] at hfault
  cases hfault

theorem not_leadsToPoint_onOwnLine : ¬ LeadsToPoint onOwnLine := by
  rw [← opensField_iff]
  decide

theorem notations_alike_onOwnLine :
    IsWellFormed onOwnLine ∧ ¬ HasPair '}' onOwnLine ∧
    (∀ b, substitute b "[[\n.Threshold ]]" = .ok "[[\n.Threshold ]]") ∧
    ¬ NotationsAgree onOwnLine := by
  have hbraces : ¬ HasPair '}' onOwnLine := by decide
  obtain ⟨-, hiff⟩ := notations_alike isWellFormed_onOwnLine
  obtain ⟨halike, hkept⟩ := hiff hbraces
  refine ⟨isWellFormed_onOwnLine, hbraces, ?_, fun hagree =>
    not_leadsToPoint_onOwnLine (halike.1 hagree)⟩
  exact hkept not_leadsToPoint_onOwnLine [] [] surrounds_nil

/-- Not every well-formed action gets the same answer in both notations. -/
theorem not_always_alike : ¬ ∀ body, IsWellFormed body → NotationsAgree body := by
  intro hall
  have hanswers := hall onOwnLine isWellFormed_onOwnLine [] [] surrounds_nil ⟨some "100", none⟩
  have hbracket : substitute ⟨some "100", none⟩ (Delimiter.bracket.around [] onOwnLine []) =
      .ok "[[\n.Threshold ]]" := by decide +kernel
  have hbrace : substitute ⟨some "100", none⟩ (Delimiter.brace.around [] onOwnLine []) =
      .ok "100" := by decide +kernel
  rw [hbracket, hbrace] at hanswers
  have hsame : "[[\n.Threshold ]]" = "100" := hanswers
  exact absurd hsame (by decide)

end AlertRules.Placeholder
