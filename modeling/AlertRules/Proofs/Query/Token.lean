/-
AlertRules/Proofs/Query/Token.lean

The tokens of a query to which text is appended.  White space ends every lexeme, so text
that starts with a space leaves the tokens before it as they are: each measure of a lexeme
comes out the same with the text behind it (`numberLength_append` and the others), so each
lexeme does (`scanLexeme?_append`), and by induction over the lexemes so do all tokens
(`scanFrom_append`).

The exception is a comment that is still open where the query ends
(`commentAtEnd`): it takes in whatever is appended on its line.
-/
import AlertRules.Query.Token
import AlertRules.Text.Blank

namespace AlertRules.Query

variable {s : List Char}

/-! ### Measures of lexemes -/

theorem spanLength_append {p : Char → Bool} (hp : p ' ' = false) (cs : List Char) :
    spanLength p (cs ++ ' ' :: s) = spanLength p cs := by
  induction cs with
  | nil => simp [spanLength, hp]
  | cons c r ih =>
    unfold spanLength at ih ⊢
    by_cases hc : p c = true <;> simp [hc, ih]

theorem spanLength_le (p : Char → Bool) (cs : List Char) : spanLength p cs ≤ cs.length :=
  (List.takeWhile_sublist p).length_le

theorem drop_append {cs : List Char} {n : Nat} (h : n ≤ cs.length) :
    (cs ++ ' ' :: s).drop n = cs.drop n ++ ' ' :: s := List.drop_append_of_le_length h

theorem isHexNumber_append (cs : List Char) : isHexNumber (cs ++ ' ' :: s) = isHexNumber cs := by
  match cs with
  | [] => rfl
  | [c] =>
    by_cases hc : c = '0'
    · subst hc
      rfl
    · simp [isHexNumber, hc]
  | a :: b :: r =>
    by_cases ha : a = '0'
    · subst ha
      rfl
    · simp [isHexNumber, ha]

theorem fractionLength_append {p : Char → Bool} (hp : p ' ' = false) (cs : List Char) :
    fractionLength p (cs ++ ' ' :: s) = fractionLength p cs := by
  cases cs with
  | nil => rfl
  | cons c r =>
    by_cases hc : c = '.'
    · subst hc
      simp only [List.cons_append, fractionLength, spanLength_append hp]
    · simp [fractionLength, hc]

theorem fractionLength_le (p : Char → Bool) (cs : List Char) :
    fractionLength p cs ≤ cs.length := by
  unfold fractionLength
  split
  · next r =>
    have := spanLength_le p r
    rw [List.length_cons]
    omega
  · exact Nat.zero_le _

theorem signLength_append (cs : List Char) : signLength (cs ++ ' ' :: s) = signLength cs := by
  cases cs with
  | nil => rfl
  | cons c r => rfl

theorem signLength_le (cs : List Char) : signLength cs ≤ cs.length := by
  cases cs with
  | nil => exact Nat.le_refl _
  | cons c r =>
    rw [signLength, List.length_cons]
    split <;> omega

theorem exponentLength_append (cs : List Char) :
    exponentLength (cs ++ ' ' :: s) = exponentLength cs := by
  cases cs with
  | nil => rfl
  | cons c r =>
    rw [List.cons_append, exponentLength, exponentLength, signLength_append,
      drop_append (signLength_le r), spanLength_append rfl]

theorem exponentLength_le (cs : List Char) : exponentLength cs ≤ cs.length := by
  cases cs with
  | nil => exact Nat.le_refl _
  | cons c r =>
    have hsign := signLength_le r
    have hspan := spanLength_le Char.isDigit (r.drop (signLength r))
    rw [List.length_drop] at hspan
    rw [exponentLength, List.length_cons]
    split <;> omega

/-- A number ends where it ended before, and not behind the end of the text. -/
theorem numberLength_append {cs : List Char} (hne : cs ≠ []) :
    numberLength (cs ++ ' ' :: s) = numberLength cs ∧ numberLength cs ≤ cs.length := by
  have hpart : (if isHexNumber cs then isHexDigit else Char.isDigit) ' ' = false := by
    split <;> rfl
  have hstart : (if isHexNumber cs then 2 else 0) ≤ cs.length := by
    split
    · next hhex =>
      unfold isHexNumber at hhex
      split at hhex
      · simp
      · cases hhex
    · exact Nat.zero_le _
  unfold numberLength
  rw [isHexNumber_append]
  generalize hp : (if isHexNumber cs then isHexDigit else Char.isDigit) = isPart at hpart ⊢
  generalize hn : (if isHexNumber cs then 2 else 0) = start at hstart ⊢
  -- each part ends inside the text, so what is behind it is what was there before
  have hwhole := spanLength_le isPart (cs.drop start)
  rw [List.length_drop] at hwhole
  have hfraction := fractionLength_le isPart
    (cs.drop (start + spanLength isPart (cs.drop start)))
  rw [List.length_drop] at hfraction
  have hexponent := exponentLength_le
    (cs.drop (start + spanLength isPart (cs.drop start) +
      fractionLength isPart (cs.drop (start + spanLength isPart (cs.drop start)))))
  rw [List.length_drop] at hexponent
  simp only
  rw [drop_append hstart, spanLength_append hpart, drop_append (by omega),
    fractionLength_append hpart, drop_append (by omega), exponentLength_append]
  exact ⟨rfl, by omega⟩

theorem plural_append (cs : List Char) : plural (cs ++ ' ' :: s) = plural cs := by
  cases cs with
  | nil => rfl
  | cons c r => rfl

theorem plural_le (cs : List Char) : plural cs ≤ cs.length := by
  cases cs with
  | nil => exact Nat.le_refl _
  | cons c r =>
    unfold plural
    rw [List.length_cons]
    split <;> omega

/-- A component whose unit is there counts together with those behind it. -/
theorem componentsLength?_of_unit {c u : Char} {r r' : List Char} (hdigit : c.isDigit = true)
    (hrest : r.drop (spanLength Char.isDigit r) = u :: r') :
    componentsLength? (c :: r) =
      if ['s', 'm', 'h', 'd', 'w'].contains u then
        (componentsLength? (r'.drop (plural r'))).map fun k =>
          1 + spanLength Char.isDigit r + 1 + plural r' + k
      else none := by
  rw [componentsLength?]
  simp only [hdigit, if_true]
  split
  · next hnil =>
    rw [hrest] at hnil
    cases hnil
  · next hcons =>
    rw [hrest] at hcons
    cases hcons
    rfl

theorem componentsLength?_append {cs : List Char} {n : Nat} (h : componentsLength? cs = some n) :
    componentsLength? (cs ++ ' ' :: s) = some n ∧ n ≤ cs.length := by
  induction cs using componentsLength?.induct generalizing n with
  | case1 =>
    rw [componentsLength?] at h
    cases h
    rw [List.nil_append, componentsLength?]
    exact ⟨rfl, Nat.le_refl _⟩
  | case2 c r hdigit k =>
    rename_i hrest
    -- digits without a unit are refused
    rw [componentsLength?] at h
    simp only [hdigit, if_true] at h
    split at h
    · cases h
    · next hcons =>
      rw [show r.drop (spanLength Char.isDigit r) = [] from hrest] at hcons
      cases hcons
  | case3 c r hdigit k u r' hrest hunit =>
    rename_i ih
    -- neither the digits nor the unit reach as far as the space
    rw [componentsLength?_of_unit hdigit hrest, if_pos hunit, Option.map_eq_some_iff] at h
    obtain ⟨m, hm, rfl⟩ := h
    obtain ⟨happend, hle⟩ := ih hm
    have hspan := spanLength_le Char.isDigit r
    have hrest' : (r ++ ' ' :: s).drop (spanLength Char.isDigit (r ++ ' ' :: s)) =
        u :: (r' ++ ' ' :: s) := by
      rw [spanLength_append rfl, drop_append hspan]
      exact congrArg (· ++ ' ' :: s) hrest
    rw [List.cons_append, componentsLength?_of_unit hdigit hrest', if_pos hunit, plural_append,
      drop_append (plural_le r'), happend, spanLength_append rfl]
    have hlength := congrArg List.length hrest
    rw [List.length_drop, List.length_cons] at hlength
    rw [List.length_drop] at hle
    have hplural := plural_le r'
    refine ⟨rfl, ?_⟩
    rw [List.length_cons]
    show 1 + k + 1 + plural r' + m ≤ _
    omega
  | case4 c r hdigit k u r' hrest =>
    rename_i hunit
    rw [componentsLength?_of_unit hdigit hrest, if_neg hunit] at h
    cases h
  | case5 c r hdigit hletter =>
    rw [componentsLength?, if_neg hdigit, if_pos hletter] at h
    cases h
  | case6 c r hdigit hletter =>
    rw [componentsLength?, if_neg hdigit, if_neg hletter] at h
    cases h
    rw [List.cons_append, componentsLength?, if_neg hdigit, if_neg hletter]
    exact ⟨rfl, Nat.zero_le _⟩

theorem durationTail?_append {cs : List Char} {n : Nat} (h : durationTail? cs = some n) :
    durationTail? (cs ++ ' ' :: s) = some n ∧ n ≤ cs.length := by
  cases cs with
  | nil => cases h
  | cons u r =>
    rw [durationTail?] at h
    rw [List.cons_append, durationTail?]
    split at h
    · next hunit =>
      obtain ⟨m, hm, rfl⟩ := Option.map_eq_some_iff.1 h
      obtain ⟨happend, hle⟩ := componentsLength?_append (s := s) hm
      have hplural := plural_le r
      rw [List.length_drop] at hle
      rw [if_pos hunit, plural_append, drop_append hplural, happend, List.length_cons]
      exact ⟨rfl, by omega⟩
    · cases h

theorem stringLength?_append {quote : Char} (hquote : quote ≠ '\\') {cs : List Char} {n : Nat}
    (h : stringLength? quote cs = some n) (t : List Char) :
    stringLength? quote (cs ++ t) = some n ∧ n ≤ cs.length := by
  induction cs using stringLength?.induct quote generalizing n with
  | case1 => cases h
  | case2 c r hc ih =>
    rw [stringLength?, if_pos hc] at h
    obtain ⟨m, hm, rfl⟩ := Option.map_eq_some_iff.1 h
    obtain ⟨happend, hle⟩ := ih hm
    rw [List.cons_append, List.cons_append, stringLength?, if_pos hc, happend]
    exact ⟨rfl, by simp only [List.length_cons]; omega⟩
  | case3 c r hc =>
    rw [stringLength?, if_neg hc] at h
    cases h
  | case4 r =>
    have hclosed : ∀ r, stringLength? quote (quote :: r) = some 1 := by
      intro r
      rw [stringLength?, if_pos rfl]
      exact fun c r hc => absurd hc hquote
    rw [hclosed] at h
    cases h
    exact ⟨hclosed _, Nat.succ_pos _⟩
  | case5 c r hnot hc ih =>
    rw [stringLength?, if_neg hc] at h
    · obtain ⟨m, hm, rfl⟩ := Option.map_eq_some_iff.1 h
      obtain ⟨happend, hle⟩ := ih hm
      rw [List.cons_append, stringLength?, if_neg hc, happend]
      · exact ⟨rfl, Nat.succ_le_succ hle⟩
      · -- a backslash at the end escapes nothing, and was refused
        rintro a r' rfl -
        cases r with
        | nil => cases hm
        | cons b r => exact hnot b r rfl rfl
    · exact hnot

/-! ### Lexemes -/

theorem scanString?_append {mode : Mode} {quote : Char} (hquote : quote ≠ '\\') {r : List Char}
    {lexeme : Lexeme} (h : scanString? mode quote r = some lexeme) (t : List Char) :
    scanString? mode quote (r ++ t) = some lexeme ∧ lexeme.extra ≤ r.length := by
  obtain ⟨n, hn, rfl⟩ := Option.map_eq_some_iff.1 h
  obtain ⟨happend, hle⟩ := stringLength?_append hquote hn t
  rw [scanString?, happend]
  refine ⟨?_, hle⟩
  rw [Option.map_some, List.take_append_of_le_length (by omega)]

theorem head?_any_append {p : Char → Bool} (hp : p ' ' = false) (cs : List Char) :
    (cs ++ ' ' :: s).head?.any p = cs.head?.any p := by
  cases cs with
  | nil => simp [hp]
  | cons c r => rfl

theorem scanNumber?_append {c : Char} {r : List Char} {lexeme : Lexeme}
    (h : scanNumber? c r = some lexeme) :
    scanNumber? c (r ++ ' ' :: s) = some lexeme ∧ lexeme.extra ≤ r.length := by
  obtain ⟨hnumber, hle⟩ := numberLength_append (s := s) (List.cons_ne_nil c r)
  have hcontinues := head?_any_append (s := s) (p := fun c => isLabelPart c || c == '.') rfl
    ((c :: r).drop (numberLength (c :: r)))
  unfold scanNumber? at h ⊢
  rw [List.cons_append] at hnumber
  simp only at h ⊢
  rw [hnumber, ← List.cons_append, drop_append hle, hcontinues]
  split at h
  · next hc =>
    obtain ⟨k, hk, rfl⟩ := Option.map_eq_some_iff.1 h
    obtain ⟨happend, hkle⟩ := durationTail?_append (s := s) hk
    rw [List.length_drop] at hkle
    rw [if_pos hc, happend, Option.map_some, List.take_append_of_le_length (by omega)]
    refine ⟨rfl, ?_⟩
    rw [List.length_cons] at hle hkle
    show _ - 1 ≤ _
    omega
  · next hc =>
    cases h
    rw [if_neg hc, List.take_append_of_le_length hle]
    refine ⟨rfl, ?_⟩
    rw [List.length_cons] at hle
    show _ - 1 ≤ _
    omega

theorem scanOutside?_append {c : Char} {r : List Char} {lexeme : Lexeme}
    (h : scanOutside? c r = some lexeme) :
    scanOutside? c (r ++ ' ' :: s) = some lexeme ∧ lexeme.extra ≤ r.length := by
  unfold scanOutside? at h
  -- by the first character: signs, quotes, and last what starts a number or a word
  split at h
  case h_13 | h_14 | h_15 | h_16 =>
    -- at most one more character is looked at
    cases r with
    | nil =>
      cases h
      try exact ⟨rfl, Nat.zero_le _⟩
    | cons d r =>
      refine ⟨h, ?_⟩
      simp only at h
      split at h <;> cases h <;> simp
  case h_17 | h_18 | h_19 => exact scanString?_append (by decide) h _
  case h_20 =>
    rw [scanOutside?] <;> try assumption
    simp only at h ⊢
    split at h
    · next hdigit =>
      rw [if_pos hdigit]
      exact scanNumber?_append h
    next hdigit =>
    rw [if_neg hdigit]
    split at h
    · next hdot =>
      rw [if_pos hdot, head?_any_append rfl]
      split at h
      · next hhead =>
        rw [if_pos hhead]
        exact scanNumber?_append h
      · cases h
    next hdot =>
    rw [if_neg hdot]
    split at h
    · next hword =>
      cases h
      rw [if_pos hword, spanLength_append rfl, List.take_append_of_le_length (spanLength_le _ r)]
      exact ⟨rfl, spanLength_le _ r⟩
    · cases h
  all_goals
    cases h
    exact ⟨rfl, Nat.zero_le _⟩

/-- A word inside braces may be told apart by the space behind it, so there has to be
something else behind it. -/
theorem scanBraces?_append {c : Char} {r : List Char} {lexeme : Lexeme}
    (h : scanBraces? c r = some lexeme)
    (hrest : lexeme.mode = .braces → r.drop lexeme.extra ≠ []) :
    scanBraces? c (r ++ ' ' :: s) = some lexeme ∧ lexeme.extra ≤ r.length := by
  unfold scanBraces? at h
  split at h
  case h_3 | h_4 =>
    cases r with
    | nil =>
      cases h
      try exact ⟨rfl, Nat.zero_le _⟩
    | cons d r =>
      refine ⟨h, ?_⟩
      split at h <;> cases h <;> simp
  case h_5 | h_6 | h_7 => exact scanString?_append (by decide) h _
  case h_8 =>
    rw [scanBraces?] <;> try assumption
    split at h
    · next hletter =>
      have hspan := spanLength_le isLabelPart r
      simp only at h
      have hextra : lexeme.extra = spanLength isLabelPart r ∧ lexeme.mode = .braces := by
        split at h <;> cases h <;> exact ⟨rfl, rfl⟩
      -- what the word is told apart by is still there
      have hhead : ∀ d, ((r ++ ' ' :: s).drop (spanLength isLabelPart r)).head? = some d ↔
          (r.drop (spanLength isLabelPart r)).head? = some d := by
        intro d
        rw [drop_append hspan]
        obtain ⟨a, t, ht⟩ := List.exists_cons_of_ne_nil (hextra.1 ▸ hrest hextra.2)
        rw [ht]
        rfl
      rw [if_pos hletter, spanLength_append rfl]
      simp only [hhead, List.take_append_of_le_length hspan]
      exact ⟨h, by omega⟩
    · cases h
  all_goals
    cases h
    exact ⟨rfl, Nat.zero_le _⟩

theorem scanBrackets?_append {colon : Bool} {c : Char} {r : List Char} {lexeme : Lexeme}
    (h : scanBrackets? colon c r = some lexeme) :
    scanBrackets? colon c (r ++ ' ' :: s) = some lexeme ∧ lexeme.extra ≤ r.length := by
  unfold scanBrackets? at h
  split at h
  case h_1 =>
    cases h
    exact ⟨rfl, Nat.zero_le _⟩
  case h_2 =>
    refine ⟨h, ?_⟩
    split at h <;> cases h
    exact Nat.zero_le _
  case h_3 =>
    rw [scanBrackets?] <;> try assumption
    split at h
    · next hdigit =>
      obtain ⟨hnumber, hle⟩ := numberLength_append (s := s) (List.cons_ne_nil c r)
      obtain ⟨k, hk, rfl⟩ := Option.map_eq_some_iff.1 h
      obtain ⟨happend, hkle⟩ := durationTail?_append (s := s) hk
      rw [List.length_drop] at hkle
      rw [List.cons_append] at hnumber
      simp only
      rw [if_pos hdigit, hnumber, ← List.cons_append, drop_append hle, happend,
        Option.map_some, List.take_append_of_le_length (by omega)]
      refine ⟨rfl, ?_⟩
      rw [List.length_cons] at hle hkle
      show _ - 1 ≤ _
      omega
    · cases h

/-- A lexeme is the same with white space and more behind the query, except that inside
braces something else has to follow it. -/
theorem scanLexeme?_append {mode : Mode} {c : Char} {r : List Char} {lexeme : Lexeme}
    (h : scanLexeme? mode c r = some lexeme)
    (hrest : lexeme.mode = .braces → r.drop lexeme.extra ≠ []) :
    scanLexeme? mode c (r ++ ' ' :: s) = some lexeme ∧ lexeme.extra ≤ r.length := by
  cases mode with
  | outside => exact scanOutside?_append h
  | braces => exact scanBraces?_append h hrest
  | brackets colon => exact scanBrackets?_append h

/-! ### Comments -/

/-- What is left of a query behind a number sign: the end of the line and all after it. -/
def behindComment (r : List Char) : List Char := r.drop (spanLength (fun c => !isLineEnd c) r)

/-- Whether the last line of what is left of a query ends in a comment. -/
def commentAtEnd (mode : Mode) (cs : List Char) : Bool :=
  match cs with
  | [] => false
  | c :: r =>
    if isSpace c then commentAtEnd mode r
    else if c = '#' ∧ (mode = .outside ∨ mode = .braces) then
      (behindComment r).isEmpty || commentAtEnd mode (behindComment r)
    else match scanLexeme? mode c r with
      | none => false
      | some lexeme => commentAtEnd lexeme.mode (r.drop lexeme.extra)
termination_by cs.length
decreasing_by
  all_goals simp only [behindComment, List.length_drop, List.length_cons]; omega

theorem behindComment_eq (r : List Char) :
    behindComment r = r.dropWhile fun c => !isLineEnd c := by
  induction r with
  | nil => rfl
  | cons c r ih =>
    unfold behindComment spanLength at ih ⊢
    by_cases hc : isLineEnd c = true <;> simp [hc, ih]

theorem behindComment_append_of_ne_nil {r : List Char} (h : behindComment r ≠ [])
    (t : List Char) : behindComment (r ++ t) = behindComment r ++ t := by
  rw [behindComment_eq] at h ⊢
  rw [behindComment_eq, List.dropWhile_append, if_neg (by simpa using h)]

theorem behindComment_append_of_nil {r t : List Char} (h : behindComment r = [])
    (ht : ∀ c ∈ t, isLineEnd c = false) : behindComment (r ++ t) = [] := by
  rw [behindComment_eq] at h ⊢
  rw [List.dropWhile_append, h, List.isEmpty_nil, if_pos rfl, Text.dropWhile_eq_nil_iff]
  intro c hc
  rw [ht c hc]
  rfl

/-! ### All tokens -/

section Scan

variable {mode : Mode} {c : Char} {r : List Char}

theorem scanFrom_space (h : isSpace c = true) : scanFrom mode (c :: r) = scanFrom mode r := by
  rw [scanFrom, if_pos h]

theorem scanFrom_comment (h : ¬ isSpace c = true)
    (hc : c = '#' ∧ (mode = .outside ∨ mode = .braces)) :
    scanFrom mode (c :: r) = scanFrom mode (behindComment r) := by
  rw [scanFrom, if_neg h, if_pos hc]
  rfl

theorem scanFrom_lexeme (h : ¬ isSpace c = true)
    (hc : ¬ (c = '#' ∧ (mode = .outside ∨ mode = .braces))) {lexeme : Lexeme}
    (hlex : scanLexeme? mode c r = some lexeme) :
    scanFrom mode (c :: r) =
      (scanFrom lexeme.mode (r.drop lexeme.extra)).map (lexeme.token :: ·) := by
  rw [scanFrom, if_neg h, if_neg hc]
  simp only [hlex]

/-- Where a query can be read from a lexeme on, the lexeme can be read with more behind it. -/
theorem scanLexeme?_append_of_scanFrom {lexeme : Lexeme} {ts : List Token}
    (hlex : scanLexeme? mode c r = some lexeme)
    (h : scanFrom lexeme.mode (r.drop lexeme.extra) = some ts) :
    scanLexeme? mode c (r ++ ' ' :: s) = some lexeme ∧
      (r ++ ' ' :: s).drop lexeme.extra = r.drop lexeme.extra ++ ' ' :: s := by
  have hrest : lexeme.mode = .braces → r.drop lexeme.extra ≠ [] := by
    intro hmode hnil
    rw [hmode, hnil, scanFrom] at h
    cases h
  obtain ⟨happend, hle⟩ := scanLexeme?_append (s := s) hlex hrest
  exact ⟨happend, drop_append hle⟩

end Scan

/-- Behind a query whose last line ends in no comment, further tokens are read as they are
read alone. -/
theorem scanFrom_append {mode : Mode} {cs : List Char} {ts more : List Token}
    (h : scanFrom mode cs = some ts) (hopen : commentAtEnd mode cs = false)
    (hmore : scanFrom .outside (' ' :: s) = some more) :
    scanFrom mode (cs ++ ' ' :: s) = some (ts ++ more) := by
  induction mode, cs using scanFrom.induct generalizing ts with
  | case1 =>
    rw [scanFrom, if_pos rfl] at h
    cases h
    exact hmore
  | case2 mode hmode =>
    rw [scanFrom, if_neg hmode] at h
    cases h
  | case3 mode c r hspace ih =>
    rw [scanFrom_space hspace] at h
    rw [commentAtEnd, if_pos hspace] at hopen
    rw [List.cons_append, scanFrom_space hspace]
    exact ih h hopen
  | case4 mode c r hspace hc ih =>
    rw [scanFrom_comment hspace hc] at h
    rw [commentAtEnd, if_neg hspace, if_pos hc, Bool.or_eq_false_iff] at hopen
    -- a line end stops the comment before the query ends
    have hne : behindComment r ≠ [] := by
      intro hnil
      rw [hnil] at hopen
      cases hopen.1
    rw [List.cons_append, scanFrom_comment hspace hc, behindComment_append_of_ne_nil hne]
    exact ih h hopen.2
  | case5 mode c r hspace hc hlex =>
    rw [scanFrom, if_neg hspace, if_neg hc] at h
    simp only [hlex] at h
    cases h
  | case6 mode c r hspace hc lexeme hlex ih =>
    rw [scanFrom_lexeme hspace hc hlex, Option.map_eq_some_iff] at h
    obtain ⟨rest, hrest, rfl⟩ := h
    rw [commentAtEnd, if_neg hspace, if_neg hc] at hopen
    simp only [hlex] at hopen
    obtain ⟨happend, hdrop⟩ := scanLexeme?_append_of_scanFrom (s := s) hlex hrest
    rw [List.cons_append, scanFrom_lexeme hspace hc happend, hdrop, ih hrest hopen]
    rfl

/-- Behind a query whose last line ends in a comment, the rest of the line belongs to the
comment. -/
theorem scanFrom_append_comment {mode : Mode} {cs : List Char} {ts : List Token}
    (h : scanFrom mode cs = some ts) (hopen : commentAtEnd mode cs = true)
    (hs : ∀ c ∈ ' ' :: s, isLineEnd c = false) :
    scanFrom mode (cs ++ ' ' :: s) = some ts := by
  induction mode, cs using scanFrom.induct generalizing ts with
  | case1 =>
    rw [commentAtEnd] at hopen
    cases hopen
  | case2 mode hmode =>
    rw [scanFrom, if_neg hmode] at h
    cases h
  | case3 mode c r hspace ih =>
    rw [scanFrom_space hspace] at h
    rw [commentAtEnd, if_pos hspace] at hopen
    rw [List.cons_append, scanFrom_space hspace]
    exact ih h hopen
  | case4 mode c r hspace hc ih =>
    rw [scanFrom_comment hspace hc] at h
    rw [commentAtEnd, if_neg hspace, if_pos hc] at hopen
    rw [List.cons_append, scanFrom_comment hspace hc]
    -- either this comment is the one that goes on, or a later one
    by_cases hnil : behindComment r = []
    · rw [behindComment_append_of_nil hnil hs, ← hnil]
      exact h
    · rw [behindComment_append_of_ne_nil hnil]
      refine ih h ?_
      have hopen' : commentAtEnd mode (behindComment r) = true := by simpa [hnil] using hopen
      exact hopen'
  | case5 mode c r hspace hc hlex =>
    rw [scanFrom, if_neg hspace, if_neg hc] at h
    simp only [hlex] at h
    cases h
  | case6 mode c r hspace hc lexeme hlex ih =>
    rw [scanFrom_lexeme hspace hc hlex, Option.map_eq_some_iff] at h
    obtain ⟨rest, hrest, rfl⟩ := h
    rw [commentAtEnd, if_neg hspace, if_neg hc] at hopen
    simp only [hlex] at hopen
    obtain ⟨happend, hdrop⟩ := scanLexeme?_append_of_scanFrom (s := s) hlex hrest
    rw [List.cons_append, scanFrom_lexeme hspace hc happend, hdrop, ih hrest hopen]
    rfl

end AlertRules.Query
