/-
AlertRules/Proofs/Yaml/Block.lean

Literals are read back.  While the lines are read, all characters of the text stay in the
state (`State.Took`): one more character of the written lines is one more character taken
(`readLines?_char`), so at the end the whole text is there, and the chomping that the header
shows gives it back (`finish_chompingOf`, `finish_strip`).  The header shows the
indentation where the first line does not.
-/
import AlertRules.Proofs.Yaml.Char
import AlertRules.Yaml.Block

namespace AlertRules.Yaml.Block

/-! ### What has been taken -/

/-- The state holds the text `cs`: behind the last line that is not empty its break, and then
the breaks of empty lines. -/
structure State.Took (s : State) (cs : List Char) : Prop where
  whole : s.emptyLines ++ s.lineBreak ++ s.text = cs.reverse
  inLine : s.inLine = true → s.emptyLines = [] ∧ s.lineBreak = [] ∧ s.text ≠ []
  behind : s.inLine = false → s.text ≠ [] → ∃ b, s.lineBreak = [b] ∧ isBreak b = true
  before : s.text = [] → s.lineBreak = []
  text : ∀ c ∈ s.text.head?, isBreak c = false
  breaks : ∀ c ∈ s.emptyLines, isBreak c = true

theorem State.took_nil (indent : Option Nat) : State.Took { indent := indent } [] :=
  ⟨rfl, nofun, fun _ h => absurd rfl h, fun _ => rfl, nofun, nofun⟩

section Took

variable {s : State} {cs : List Char} {c : Char}

/-- One more character of the current line. -/
theorem State.Took.add (h : s.Took cs) (hline : s.inLine = true) (hc : isBreak c = false) :
    State.Took { s with text := c :: s.text } (cs ++ [c]) := by
  obtain ⟨hempty, hbreak, -⟩ := h.inLine hline
  have hwhole := h.whole
  rw [hempty, hbreak] at hwhole
  refine ⟨?_, fun _ => ⟨hempty, hbreak, nofun⟩, fun h => absurd (hline.symm.trans h) nofun, nofun,
    ?_, h.breaks⟩
  · rw [List.reverse_append, ← hwhole, hempty, hbreak]
    rfl
  · rintro d ⟨⟩
    exact hc

/-- The end of the current line. -/
theorem State.Took.endLine (h : s.Took cs) (hline : s.inLine = true) (hc : isBreak c = true) :
    State.Took { s with inLine := false, lineBreak := [c] } (cs ++ [c]) := by
  obtain ⟨hempty, hbreak, htext⟩ := h.inLine hline
  have hwhole := h.whole
  rw [hempty, hbreak] at hwhole
  refine ⟨?_, nofun, fun _ _ => ⟨c, rfl, hc⟩, fun hnil => absurd hnil htext, h.text, h.breaks⟩
  rw [List.reverse_append, ← hwhole, hempty]
  rfl

/-- An empty line. -/
theorem State.Took.emptyLine (h : s.Took cs) (hline : s.inLine = false) (hc : isBreak c = true)
    (widest : Nat) :
    State.Took { s with widest := widest, emptyLines := c :: s.emptyLines } (cs ++ [c]) := by
  refine ⟨?_, fun h => absurd (hline.symm.trans h) nofun, h.behind, h.before, h.text,
    List.forall_mem_cons.2 ⟨hc, h.breaks⟩⟩
  rw [List.reverse_append, ← h.whole]
  rfl

/-- The start of a line that is not empty. -/
theorem State.Took.startLine (h : s.Took cs) (hc : isBreak c = false) (indent : Nat) :
    State.Took { indent := some indent, widest := s.widest, inLine := true, blankStart := isBlank c,
                 lineBreak := [], emptyLines := [], text := c :: s.joined false (isBlank c) }
      (cs ++ [c]) := by
  refine ⟨?_, fun _ => ⟨rfl, rfl, nofun⟩, nofun, nofun, ?_, nofun⟩
  · rw [List.reverse_append, ← h.whole]
    rfl
  · rintro d ⟨⟩
    exact hc

/-- Between lines the text ends in a break, inside a line it does not. -/
theorem State.Took.isBreak_getLast? (h : s.Took cs) (hne : cs ≠ []) :
    cs.getLast?.any isBreak = !s.inLine := by
  rw [← List.head?_reverse, ← h.whole]
  cases hline : s.inLine with
  | true =>
    obtain ⟨hempty, hbreak, htext⟩ := h.inLine hline
    obtain ⟨t, ts, hts⟩ := List.exists_cons_of_ne_nil htext
    have ht : isBreak t = false := h.text t (by rw [hts]; rfl)
    rw [hempty, hbreak, hts]
    exact ht
  | false =>
    cases hempty : s.emptyLines with
    | cons e es => exact h.breaks e (hempty ▸ .head _)
    | nil =>
      by_cases htext : s.text = []
      · have hwhole := h.whole
        rw [hempty, h.before htext, htext] at hwhole
        exact absurd (List.reverse_eq_nil_iff.1 hwhole.symm) hne
      · obtain ⟨b, hb, hbreak⟩ := h.behind hline htext
        rw [hb]
        exact hbreak

/-! ### Chomping -/

/-- A text that ends in a break is given back under the chomping that its end calls for. -/
theorem State.Took.finish_chompingOf (h : s.Took cs) (hline : s.inLine = false) (hne : cs ≠ []) :
    s.finish (chompingOf cs) = cs := by
  have hkeep : s.finish .keep = cs := by
    rw [State.finish, h.whole, List.reverse_reverse]
  have hwhole := h.whole
  unfold chompingOf
  rw [← hwhole]
  cases hempty : s.emptyLines with
  | cons e es =>
    have he : isBreak e = true := h.breaks e (hempty ▸ .head _)
    cases htail : es ++ s.lineBreak ++ s.text with
    | nil =>
      rw [List.cons_append, List.cons_append, htail]
      simp only [he, if_true]
      exact hkeep
    | cons d r =>
      -- what stands before an empty line is a break too
      have hd : isBreak d = true := by
        cases es with
        | cons e' es' =>
          cases htail
          exact h.breaks d (hempty ▸ .tail _ (.head _))
        | nil =>
          by_cases htext : s.text = []
          · rw [h.before htext, htext] at htail
            cases htail
          · obtain ⟨b, hb, hbreak⟩ := h.behind hline htext
            rw [hb] at htail
            cases htail
            exact hbreak
      rw [List.cons_append, List.cons_append, htail]
      simp only [he, hd, if_true]
      exact hkeep
  | nil =>
    by_cases htext : s.text = []
    · rw [hempty, h.before htext, htext] at hwhole
      exact absurd (List.reverse_eq_nil_iff.1 hwhole.symm) hne
    · -- the one break behind the last line is what clipping leaves
      obtain ⟨b, hb, hbreak⟩ := h.behind hline htext
      obtain ⟨t, ts, hts⟩ := List.exists_cons_of_ne_nil htext
      have ht : isBreak t = false := h.text t (by rw [hts]; rfl)
      rw [hempty, hb, hts] at hwhole
      rw [hb, hts]
      simp only [List.nil_append, List.singleton_append, hbreak, ht, if_true, Bool.false_eq_true,
        if_false]
      rw [State.finish, hb, hts, List.singleton_append]
      exact List.reverse_eq_iff.2 hwhole

/-- A text that does not end in a break is what comes before the last break. -/
theorem State.Took.finish_strip (h : s.Took cs) (hline : s.inLine = true) :
    s.text.reverse = cs ∧ chompingOf cs = .strip := by
  obtain ⟨hempty, hbreak, htext⟩ := h.inLine hline
  have hwhole := h.whole
  rw [hempty, hbreak, List.nil_append, List.nil_append] at hwhole
  refine ⟨List.reverse_eq_iff.2 hwhole, ?_⟩
  obtain ⟨t, ts, hts⟩ := List.exists_cons_of_ne_nil htext
  have ht : isBreak t = false := h.text t (by rw [hts]; rfl)
  unfold chompingOf
  rw [← hwhole, hts]
  cases ts with
  | nil => simp only [ht, Bool.false_eq_true, if_false]
  | cons d r => simp only [ht, Bool.false_eq_true, if_false]

end Took

/-! ### Lines -/

section Lines

variable {outer : Option Nat} {s : State} {m : Mark} {n : Nat} {cs : List Char}

/-- The indentation is known to be `n`, or the first line, which starts with `c`, shows it. -/
def State.Expects (s : State) (outer : Option Nat) (n : Nat) (c : Char) : Prop :=
  s.indent = some n ∨
    (s.indent = none ∧ s.widest = 0 ∧ s.inLine = false ∧ isBreak c = false ∧ c ≠ ' ' ∧
      ∃ k, outer = some k ∧ k < n)

theorem State.settled_of_expects {c : Char} (h : s.Expects outer n c) : s.settled outer n = n := by
  rcases h with h | ⟨h, hwidest, -, -, -, k, rfl, hk⟩
  · simp only [State.settled, h]
  · simp only [State.settled, h, hwidest]
    omega

theorem readLines?_spaces {chomping : Chomping} {k : Nat} {rest : List Char}
    (hline : s.inLine = false) (hindent : ∀ n, s.indent = some n → m.column + k ≤ n) :
    readLines? false chomping outer s m (List.replicate k ' ' ++ rest) =
      readLines? false chomping outer s (m.past (List.replicate k ' ')) rest := by
  induction k generalizing m with
  | zero => rfl
  | succ k ih =>
    have hafter : m.after ' ' = m.skip 1 := Mark.after_of_not_isBreak rfl m
    have hindentation : s.isIndentation m.column = true := by
      rw [State.isIndentation]
      cases hs : s.indent with
      | none => rfl
      | some n =>
        have hle := hindent n hs
        simpa using by omega
    have hcolumn : ∀ n, s.indent = some n → (m.after ' ').column + k ≤ n := by
      intro n hn
      have hle := hindent n hn
      rw [hafter, Mark.skip]
      show m.column + 1 + k ≤ n
      omega
    rw [List.replicate_succ, List.cons_append, readLines?, if_neg (by simp [hline]),
      if_pos ⟨rfl, hindentation⟩, ih hcolumn, Mark.past_cons]

/-- How one character of the text is written. -/
def writeLineChar (indent : Nat) (atLineStart : Bool) (c : Char) : List Char :=
  if isBreak c then [c] else (if atLineStart then List.replicate indent ' ' else []) ++ [c]

theorem writeLines_cons (indent : Nat) (atLineStart : Bool) (c : Char) (r : List Char) :
    writeLines indent atLineStart (c :: r) =
      writeLineChar indent atLineStart c ++ writeLines indent (isBreak c) r := by
  rw [writeLines, writeLineChar]
  split
  · next hc => rw [hc]; rfl
  · next hc => rw [Bool.eq_false_iff.2 hc, List.append_assoc]; rfl

/-- The first character of a line is taken behind its indentation. -/
theorem readLines?_startLine (chomping : Chomping) {c : Char} (hs : s.Took cs)
    (hline : s.inLine = false) (hexpects : s.Expects outer n c) (hprint : isPrintable c = true)
    (hbreak : isBreak c = false) (hcolumn : m.column = 0) (r : List Char) :
    ∃ s', s'.Took (cs ++ [c]) ∧ s'.indent = some n ∧ s'.inLine = true ∧
      readLines? false chomping outer s m (List.replicate n ' ' ++ c :: r) =
        readLines? false chomping outer s' (m.past (List.replicate n ' ' ++ [c])) r := by
  refine ⟨_, hs.startLine hbreak n, rfl, rfl, ?_⟩
  have hbehind : (m.past (List.replicate n ' ')).column = n := by
    rw [Mark.past_replicate, Mark.skip]
    show m.column + n = n
    omega
  have hspaces : ∀ k, s.indent = some k → m.column + n ≤ k := by
    intro k hk
    rcases hexpects with hn | ⟨hnone, -⟩
    · cases hn.symm.trans hk
      omega
    · cases hnone.symm.trans hk
  rw [readLines?_spaces hline hspaces, Mark.past_append]
  generalize m.past (List.replicate n ' ') = m' at hbehind ⊢
  -- the character is not taken for more indentation
  have hspace : ¬ (c = ' ' ∧ s.isIndentation m'.column = true) := by
    rintro ⟨rfl, hindentation⟩
    rcases hexpects with hn | ⟨-, -, -, -, hne, -⟩
    · rw [State.isIndentation, hn, hbehind] at hindentation
      simp at hindentation
    · exact hne rfl
  have htab : ¬ (c = '\t' ∧ s.isIndentation m'.column = true) := fun h =>
    ne_of_isPrintable hprint (by decide) h.1
  have hsettled : s.settled outer n = n := State.settled_of_expects hexpects
  rw [readLines?, if_neg (by simp [hline]), if_neg hspace, if_neg htab, if_neg (by simp [hbreak])]
  simp only [hbehind, hsettled, if_true]
  rfl

/-- One more character is taken; it tells whether the line goes on. -/
theorem readLines?_char (chomping : Chomping) {c : Char} (hs : s.Took cs)
    (hexpects : s.Expects outer n c) (hprint : isPrintable c = true)
    (hcolumn : s.inLine = false → m.column = 0) (r : List Char) :
    ∃ s', s'.Took (cs ++ [c]) ∧ s'.indent = some n ∧ s'.inLine = !isBreak c ∧
      readLines? false chomping outer s m (writeLineChar n (!s.inLine) c ++ r) =
        readLines? false chomping outer s' (m.past (writeLineChar n (!s.inLine) c)) r := by
  have hindent : isBreak c = true ∨ s.inLine = true → s.indent = some n := by
    rintro h
    rcases hexpects with hn | ⟨-, -, hline, hbreak, -⟩
    · exact hn
    · rw [hline, hbreak] at h
      rcases h with h | h <;> cases h
  rw [writeLineChar]
  cases hline : s.inLine <;> cases hbreak : isBreak c
  case false.false =>
    rw [if_neg nofun, Bool.not_false, if_pos rfl, List.append_assoc]
    exact readLines?_startLine chomping hs hline hexpects hprint hbreak (hcolumn hline) r
  case false.true =>
    refine ⟨_, hs.emptyLine hline hbreak (max s.widest m.column), hindent (.inl hbreak), hline, ?_⟩
    have hspace : ¬ (c = ' ' ∧ s.isIndentation m.column = true) := by
      rintro ⟨rfl, -⟩
      cases hbreak
    have htab : ¬ (c = '\t' ∧ s.isIndentation m.column = true) := by
      rintro ⟨rfl, -⟩
      cases hbreak
    rw [if_pos rfl, List.singleton_append, readLines?, if_neg (by simp [hline]), if_neg hspace,
      if_neg htab, if_pos hbreak]
    rfl
  case true.false =>
    refine ⟨_, hs.add hline hbreak, hindent (.inr hline), hline, ?_⟩
    rw [if_neg nofun, Bool.not_true, if_neg nofun, List.nil_append, List.singleton_append,
      readLines?, if_pos hline, if_neg (by simp [hbreak])]
    rfl
  case true.true =>
    refine ⟨_, hs.endLine hline hbreak, hindent (.inl hbreak), rfl, ?_⟩
    rw [if_pos rfl, List.singleton_append, readLines?, if_pos hline, if_pos hbreak]
    rfl

/-- All lines of a text are taken. -/
theorem readLines?_writeLines (chomping : Chomping) {text : List Char} (rest : List Char)
    (hs : s.Took cs)
    (hexpects : ∀ c ∈ text.head?, s.Expects outer n c) (hindent : text = [] → s.indent = some n)
    (hprint : ∀ c ∈ text, isPrintable c = true) (hcolumn : s.inLine = false → m.column = 0) :
    ∃ s', s'.Took (cs ++ text) ∧ s'.indent = some n ∧
      (s'.inLine = false → (m.past (writeLines n (!s.inLine) text)).column = 0) ∧
      readLines? false chomping outer s m (writeLines n (!s.inLine) text ++ rest) =
        readLines? false chomping outer s' (m.past (writeLines n (!s.inLine) text)) rest := by
  induction text generalizing s m cs with
  | nil => exact ⟨s, by rwa [List.append_nil], hindent rfl, hcolumn, rfl⟩
  | cons c r ih =>
    -- from the first character on the indentation is known
    rw [List.forall_mem_cons] at hprint
    obtain ⟨s', hs', hindent', hline', hread⟩ := readLines?_char chomping hs
      (hexpects c rfl) hprint.1 hcolumn (writeLines n (isBreak c) r ++ rest)
    have hcolumn' : s'.inLine = false → (m.past (writeLineChar n (!s.inLine) c)).column = 0 := by
      intro h
      have hbreak : isBreak c = true := by simpa [hline'] using h
      rw [writeLineChar, if_pos hbreak, Mark.past_cons, Mark.past_nil, Mark.after_of_isBreak hbreak]
    obtain ⟨s'', hs'', hindent'', hcolumn'', hread'⟩ := ih hs' (fun _ _ => .inl hindent')
      (fun _ => hindent') hprint.2 hcolumn'
    have hstart : (!s'.inLine) = isBreak c := by rw [hline', Bool.not_not]
    rw [hstart] at hcolumn'' hread'
    refine ⟨s'', by simpa using hs'', hindent'', ?_, ?_⟩
    · rwa [writeLines_cons, Mark.past_append]
    · rw [writeLines_cons, List.append_assoc, Mark.past_append, hread, hread']

end Lines

/-! ### Whole literals -/

section Whole

variable {s : State} {m : Mark} {cs rest : List Char} {k n : Nat}

/-- Less indentation ends a literal. -/
theorem readLines?_end {chomping : Chomping} {outer : Option Nat} (hline : s.inLine = false)
    (hindent : s.indent = some n) (hcolumn : m.column = 0) (hk : k < n) (hrest : StartsToken rest) :
    readLines? false chomping outer s m (List.replicate k ' ' ++ rest) =
      some ⟨s.finish chomping, m.past (List.replicate k ' '), rest⟩ := by
  have hspaces : ∀ n', s.indent = some n' → m.column + k ≤ n' := by
    intro n' hn'
    cases hindent.symm.trans hn'
    omega
  have hcolumn' : (m.past (List.replicate k ' ')).column = k := by
    rw [Mark.past_replicate, Mark.skip]
    show m.column + k = k
    omega
  rw [readLines?_spaces hline hspaces]
  generalize m.past (List.replicate k ' ') = m' at hcolumn' ⊢
  cases rest with
  | nil => rfl
  | cons c r =>
    obtain ⟨hblank, hbreak, -⟩ := hrest
    simp only [isBlank, Bool.or_eq_false_iff, beq_eq_false_iff_ne] at hblank
    have hsettled : s.settled outer k = n := by simp only [State.settled, hindent]
    rw [readLines?, if_neg (by simp [hline]), if_neg fun h => hblank.1 h.1,
      if_neg fun h => hblank.2 h.1, if_neg (by simp [hbreak])]
    simp only [hcolumn', hsettled, if_neg (Nat.ne_of_lt hk)]

/-- A header says what the text calls for. -/
theorem readHeader?_indicators (cs r : List Char) :
    readHeader? (indicators cs ++ '\n' :: r) =
      some (⟨chompingOf cs, if cs.head?.any (fun c => c == ' ' || isBreak c) then some 2 else none⟩,
        '\n' :: r) := by
  unfold indicators
  split <;> cases chompingOf cs <;> rfl

theorem not_isBreak_of_mem_indicators {c : Char} (h : c ∈ indicators cs) : isBreak c = false := by
  have hany : (indicators cs).any isBreak = false := by
    unfold indicators
    split <;> cases chompingOf cs <;> rfl
  exact Bool.eq_false_iff.2 (List.any_eq_false.1 hany c h)

/-- What is written behind a literal: a break, unless its text ends in one. -/
def closing (cs : List Char) : List Char := if cs.getLast?.any isBreak then [] else ['\n']

/-- Behind a literal that has no break at its end, one is added that chomping takes away. -/
theorem readLines?_closing {outer : Option Nat} (hs : s.Took cs) (hne : cs ≠ [])
    (hindent : s.indent = some n) (hcolumn : s.inLine = false → m.column = 0) (hk : k < n)
    (hrest : StartsToken rest) :
    readLines? false (chompingOf cs) outer s m (closing cs ++ (List.replicate k ' ' ++ rest)) =
      some ⟨cs, m.past (closing cs ++ List.replicate k ' '), rest⟩ := by
  rw [closing, hs.isBreak_getLast? hne]
  cases hline : s.inLine with
  | true =>
    obtain ⟨htext, hstrip⟩ := hs.finish_strip hline
    have hbreak : isBreak '\n' = true := rfl
    have hend : readLines? false .strip outer { s with inLine := false, lineBreak := ['\n'] }
        (m.after '\n') (List.replicate k ' ' ++ rest) = _ := readLines?_end rfl hindent rfl hk hrest
    rw [State.finish, htext] at hend
    rw [Bool.not_true, if_neg nofun, List.singleton_append, readLines?, if_pos hline,
      if_pos hbreak, hstrip]
    exact hend
  | false =>
    rw [Bool.not_false, if_pos rfl, List.nil_append, List.nil_append,
      readLines?_end hline hindent (hcolumn hline) hk hrest, hs.finish_chompingOf hline hne]

/-- Behind a literal there is a new line. -/
theorem column_closing (hs : s.Took cs) (hne : cs ≠ [])
    (hcolumn : s.inLine = false → m.column = 0) :
    (m.past (closing cs ++ List.replicate k ' ')).column = k := by
  rw [closing, hs.isBreak_getLast? hne]
  cases hline : s.inLine with
  | true =>
    rw [Bool.not_true, if_neg nofun, List.singleton_append, Mark.past_indentation rfl]
  | false =>
    rw [Bool.not_false, if_pos rfl, List.nil_append, Mark.past_replicate, Mark.skip,
      hcolumn hline, Nat.zero_add]

/-- A literal is read back, with the indentation of the line behind it. -/
theorem read?_write (hprint : ∀ c ∈ cs, isPrintable c = true) (hne : cs ≠ []) {column : Nat}
    (hk : k ≤ column) (hrest : StartsToken rest) :
    ∃ m' : Mark, m'.column = k ∧
      read? false (some column) m (indicators cs ++ '\n' :: (writeLines (column + 2) true cs ++
        (closing cs ++ (List.replicate k ' ' ++ rest)))) = some ⟨cs, m', rest⟩ := by
  obtain ⟨c, r, rfl⟩ := List.exists_cons_of_ne_nil hne
  generalize hincrement : (if (c :: r).head?.any (fun c => c == ' ' || isBreak c) then some 2
    else none : Option Nat) = increment
  let start : State := { indent := increment.map fun n => (some column).getD 0 + n }
  -- a text that starts with white space has its indentation in the header, another one shows it
  have hexpects : start.Expects (some column) (column + 2) c := by
    by_cases hc : (c :: r).head?.any (fun c => c == ' ' || isBreak c) = true
    · rw [if_pos hc] at hincrement
      subst hincrement
      exact .inl rfl
    · rw [if_neg hc] at hincrement
      subst hincrement
      simp only [List.head?_cons, Option.any_some, Bool.or_eq_true, beq_iff_eq, not_or,
        Bool.not_eq_true] at hc
      exact .inr ⟨rfl, rfl, rfl, hc.2, hc.1, column, rfl, by omega⟩
  have hheader : m.skip (indicators (c :: r)).length = m.past (indicators (c :: r)) :=
    (Mark.past_of_not_isBreak (fun _ => not_isBreak_of_mem_indicators) m).symm
  have htook : start.Took [] := State.took_nil _
  have hfirst : ∀ d ∈ (c :: r).head?, start.Expects (some column) (column + 2) d := by
    rintro d ⟨⟩
    exact hexpects
  have hzero : ((m.past (indicators (c :: r))).after '\n').column = 0 := rfl
  obtain ⟨s', hs', hindent', hcolumn', hread⟩ := readLines?_writeLines (chompingOf (c :: r))
    (closing (c :: r) ++ (List.replicate k ' ' ++ rest)) htook hfirst nofun hprint fun _ => hzero
  have hend : readLines? false (chompingOf (c :: r)) (some column) s' _
      (closing (c :: r) ++ (List.replicate k ' ' ++ rest)) = _ :=
    readLines?_closing hs' hne hindent' hcolumn' (Nat.lt_of_le_of_lt hk (by omega)) hrest
  refine ⟨_, column_closing hs' hne hcolumn', ?_⟩
  rw [read?, readHeader?_indicators, hincrement]
  simp only [Option.bind_eq_bind, Option.bind_some, List.length_append, Nat.add_sub_cancel,
    hheader]
  exact hread.trans hend

end Whole

end AlertRules.Yaml.Block
