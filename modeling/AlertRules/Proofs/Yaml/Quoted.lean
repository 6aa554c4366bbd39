/-
AlertRules/Proofs/Yaml/Quoted.lean

Quoted scalars are read back.  Between single quotes the text stands as it is, but for the
quotes that are doubled and the indentation behind breaks; as none of its breaks is a line
feed or touches a space, no white space is folded (`read?_writeSingle`).  Between double
quotes every escape gives back its character (`readEscape?_escapeSequence`), and there are no
breaks (`read?_writeDouble`).
-/
import Mathlib.Algebra.Group.Nat.Defs
import AlertRules.Proofs.Yaml.Char
import AlertRules.Yaml.Quoted
import AlertRules.Yaml.Scalar

namespace AlertRules.Yaml

/-! ### White space that stays -/

/-- The white space is not folded: its first break, if any, is no line feed. -/
def Pending.Stays : Pending → Prop
  | blanks _ => True
  | breaks first _ => first ≠ some '\n'

namespace Pending

theorem fold_of_stays {first : Option Char} {more : List Char}
    (h : (breaks first more).Stays) : (breaks first more).fold = first.toList ++ more.reverse := by
  unfold fold
  split
  · next heq => cases heq
  · next heq =>
    cases heq
    exact absurd rfl h
  · next heq =>
    cases heq
    exact absurd rfl h
  · next heq =>
    cases heq
    rfl

/-- The white space ends in the character `d`, unless there is none, and stays. -/
structure Follows (p : Pending) (d : Char) : Prop where
  stays : p.Stays
  blanks : p.isBreaks = false → p.isEmpty = false → d = ' '
  breaks : p.isBreaks = true → isBreak d = true

theorem none_follows (d : Char) : Pending.none.Follows d := ⟨trivial, nofun, nofun⟩

variable {p : Pending} {c d : Char}

/-- A break that is no line feed, and has no space before it, stays. -/
theorem Follows.addBreak (h : p.Follows d) (hc : isBreak c = true) (hfeed : c ≠ '\n')
    (hspace : (Scalar.isSpace d && isBreak c) = false) :
    (p.addBreak c).Follows c ∧ (p.addBreak c).fold = p.fold ++ [c] := by
  cases p with
  | blanks ws =>
    cases ws with
    | nil =>
      have hstays : (Pending.breaks (some c) []).Stays := fun h => hfeed (Option.some.inj h)
      exact ⟨⟨hstays, nofun, fun _ => hc⟩, fold_of_stays hstays⟩
    | cons w ws =>
      rw [h.blanks rfl rfl, hc] at hspace
      cases hspace
  | breaks first more =>
    have hstays : (Pending.breaks first (c :: more)).Stays := h.stays
    refine ⟨⟨hstays, nofun, fun _ => hc⟩, ?_⟩
    rw [Pending.addBreak, fold_of_stays hstays, fold_of_stays h.stays, List.reverse_cons,
      List.append_assoc]

/-- A space that has no break before it stays. -/
theorem Follows.addBlank (h : p.Follows d) (hbreak : (isBreak d && Scalar.isSpace ' ') = false) :
    p.isBreaks = false ∧ (p.addBlank ' ').isBreaks = false ∧ (p.addBlank ' ').Follows ' ' ∧
      (p.addBlank ' ').fold = p.fold ++ [' '] := by
  cases p with
  | blanks ws => exact ⟨rfl, rfl, ⟨trivial, fun _ _ => rfl, nofun⟩, List.reverse_cons⟩
  | breaks first more =>
    rw [h.breaks rfl] at hbreak
    cases hbreak

end Pending

theorem isDocumentMarker_of_ne {c : Char} (hminus : c ≠ '-') (hdot : c ≠ '.') (r : List Char) :
    isDocumentMarker (c :: r) = false := by
  unfold isDocumentMarker
  split
  · next heq =>
    cases heq
    simp [hminus, hdot]
  · rfl

namespace Quoted

/-! ### One character -/

section Steps

variable {single : Bool} {m : Mark} {p : Pending} {acc r : List Char} {c : Char}

theorem read?_blank (hc : isBlank c = true) :
    read? single m p acc (c :: r) = read? single (m.after c) (p.addBlank c) acc r := by
  have hmarker : isDocumentMarker (c :: r) = false := by
    refine isDocumentMarker_of_ne ?_ ?_ r
    all_goals
      rintro rfl
      cases hc
  rw [read?, if_neg (by simp [hmarker]), if_pos hc]

theorem read?_break (hc : isBreak c = true) :
    read? single m p acc (c :: r) = read? single (m.after c) (p.addBreak c) acc r := by
  have hmarker : isDocumentMarker (c :: r) = false := by
    refine isDocumentMarker_of_ne ?_ ?_ r
    all_goals
      rintro rfl
      cases hc
  have hblank : ¬ isBlank c = true := by
    intro h
    simp only [isBlank, Bool.or_eq_true, beq_iff_eq] at h
    rcases h with rfl | rfl <;> cases hc
  rw [read?, if_neg (by simp [hmarker]), if_neg hblank, if_pos hc]

theorem read?_indentation {first : Option Char} {more : List Char} (n : Nat) :
    read? single m (.breaks first more) acc (List.replicate n ' ' ++ r) =
      read? single (m.past (List.replicate n ' ')) (.breaks first more) acc r := by
  induction n generalizing m with
  | zero => rfl
  | succ n ih =>
    rw [List.replicate_succ, List.cons_append, read?_blank rfl, Mark.past_cons]
    exact ih

variable (hcolumn : 0 < m.column)

include hcolumn

theorem read?_char (hblank : isBlank c = false) (hbreak : isBreak c = false) :
    read? true m p acc (c :: r) = if c = '\'' then
      if r.head? = some '\'' then
        read? true (m.skip 2) .none ('\'' :: (p.fold.reverse ++ acc)) (r.drop 1)
      else some ⟨(p.fold.reverse ++ acc).reverse, m.after c, r⟩
    else read? true (m.after c) .none (c :: (p.fold.reverse ++ acc)) r := by
  rw [read?, if_neg fun h => absurd h.1 (Nat.ne_of_gt hcolumn), if_neg (by simp [hblank]),
    if_neg (by simp [hbreak]), if_pos rfl]

theorem read?_escape {d : Char} {n : Nat} (hbreak : r.head?.any isBreak = false)
    (h : readEscape? r = some (d, n)) :
    read? false m p acc ('\\' :: r) =
      read? false (m.skip (1 + n)) .none (d :: (p.fold.reverse ++ acc)) (r.drop n) := by
  have hblank : ¬ isBlank '\\' = true := by decide
  have hback : ¬ isBreak '\\' = true := by decide
  rw [read?, if_neg fun h => absurd h.1 (Nat.ne_of_gt hcolumn), if_neg hblank, if_neg hback]
  simp [hbreak, h]

theorem read?_close : read? false m p acc ('"' :: r) =
    some ⟨acc.reverse ++ p.fold, m.after '"', r⟩ := by
  have hblank : ¬ isBlank '"' = true := by decide
  have hback : ¬ isBreak '"' = true := by decide
  rw [read?, if_neg fun h => absurd h.1 (Nat.ne_of_gt hcolumn), if_neg hblank, if_neg hback]
  simp

theorem read?_plainChar (hblank : isBlank c = false) (hbreak : isBreak c = false)
    (hquote : c ≠ '"') (hback : c ≠ '\\') :
    read? false m p acc (c :: r) =
      read? false (m.after c) .none (c :: (p.fold.reverse ++ acc)) r := by
  rw [read?, if_neg fun h => absurd h.1 (Nat.ne_of_gt hcolumn), if_neg (by simp [hblank]),
    if_neg (by simp [hbreak])]
  simp [hquote, hback]

end Steps

/-! ### Single quotes -/

section Single

variable {indent : Nat} {acc rest : List Char}

/-- A character and the white space before it, in a line of its own if there is a break. -/
theorem read?_writeSingle_char {m : Mark} {p : Pending} {c : Char} {r : List Char}
    (hcolumn : p.isBreaks = false → 0 < m.column) (hindent : 0 < indent)
    (hblank : isBlank c = false) (hbreak : isBreak c = false) :
    read? true m p acc ((if p.isBreaks = true then List.replicate indent ' ' else []) ++
        ((if c = '\'' then ['\'', '\''] else [c]) ++ r)) =
      read? true (m.past ((if p.isBreaks = true then List.replicate indent ' ' else []) ++
        (if c = '\'' then ['\'', '\''] else [c]))) .none (c :: (p.fold.reverse ++ acc)) r := by
  -- behind the indentation the column is not zero
  have hline : ∀ {m' : Mark}, 0 < m'.column →
      read? true m' p acc ((if c = '\'' then ['\'', '\''] else [c]) ++ r) =
        read? true (m'.past (if c = '\'' then ['\'', '\''] else [c])) .none
          (c :: (p.fold.reverse ++ acc)) r := by
    intro m' hm'
    split
    · next hc =>
      subst hc
      rw [List.cons_append, read?_char hm' hblank hbreak, if_pos rfl]
      rfl
    · next hc =>
      rw [List.singleton_append, read?_char hm' hblank hbreak, if_neg hc]
      rfl
  cases p with
  | blanks ws => exact hline (hcolumn rfl)
  | breaks first more =>
    rw [show (Pending.breaks first more).isBreaks = true from rfl, if_pos rfl,
      read?_indentation, Mark.past_append]
    refine hline ?_
    rw [Mark.past_replicate]
    exact Nat.lt_of_lt_of_le hindent (Nat.le_add_left _ _)

theorem read?_writeSingle_end {m : Mark} {p : Pending}
    (hcolumn : p.isBreaks = false → 0 < m.column) (hindent : 0 < indent)
    (hrest : rest.head? ≠ some '\'') :
    read? true m p acc ((if p.isBreaks = true then List.replicate indent ' ' else []) ++
        '\'' :: rest) =
      some ⟨acc.reverse ++ p.fold, m.past ((if p.isBreaks = true then List.replicate indent ' '
        else []) ++ ['\'']), rest⟩ := by
  have hline : ∀ {m' : Mark}, 0 < m'.column → read? true m' p acc ('\'' :: rest) =
      some ⟨acc.reverse ++ p.fold, m'.past ['\''], rest⟩ := by
    intro m' hm'
    rw [read?_char hm' rfl rfl, if_pos rfl, if_neg hrest]
    simp
  cases p with
  | blanks ws => exact hline (hcolumn rfl)
  | breaks first more =>
    rw [show (Pending.breaks first more).isBreaks = true from rfl, if_pos rfl,
      read?_indentation, Mark.past_append]
    refine hline ?_
    rw [Mark.past_replicate]
    exact Nat.lt_of_lt_of_le hindent (Nat.le_add_left _ _)

/-- Each character of a text between single quotes, and the indentation behind a break, ends
beyond column zero. -/
theorem column_pos_writeSingle {m : Mark} {c : Char} (hbreak : isBreak c = false)
    (before : List Char) :
    0 < (m.past (before ++ (if c = '\'' then ['\'', '\''] else [c]))).column := by
  rw [Mark.past_append]
  split
  · exact Mark.column_pos_after (c := '\'') rfl ((m.past before).after '\'')
  · exact Mark.column_pos_after hbreak _

/-- The rest of a text between single quotes, behind the character `d`, is read back. -/
theorem read?_writeSingleFrom {cs : List Char} {m : Mark} {p : Pending} {d : Char}
    (hprint : ∀ c ∈ cs, isPrintable c = true) (hfeed : '\n' ∉ cs)
    (hbefore : Scalar.hasPair Scalar.isSpace isBreak (d :: cs) = false)
    (hbehind : Scalar.hasPair isBreak Scalar.isSpace (d :: cs) = false)
    (hp : p.Follows d) (hcolumn : p.isBreaks = false → 0 < m.column) (hindent : 0 < indent)
    (hrest : rest.head? ≠ some '\'') :
    read? true m p acc (writeSingleFrom indent p.isBreaks cs ++ '\'' :: rest) =
      some ⟨acc.reverse ++ p.fold ++ cs,
        m.past (writeSingleFrom indent p.isBreaks cs ++ ['\'']), rest⟩ := by
  induction cs generalizing m p acc d with
  | nil =>
    rw [writeSingleFrom, List.append_nil]
    exact read?_writeSingle_end hcolumn hindent hrest
  | cons c r ih =>
    rw [List.forall_mem_cons] at hprint
    obtain ⟨hc, hr⟩ := hprint
    obtain ⟨hcfeed, hrfeed⟩ := not_or.1 (mt List.mem_cons.2 hfeed)
    obtain ⟨hcbefore, hrbefore⟩ := Bool.or_eq_false_iff.1 hbefore
    obtain ⟨hcbehind, hrbehind⟩ := Bool.or_eq_false_iff.1 hbehind
    rw [writeSingleFrom]
    by_cases hbreak : isBreak c = true
    · obtain ⟨hp', hfold⟩ := hp.addBreak hbreak (Ne.symm hcfeed) hcbefore
      have hbreaks : (p.addBreak c).isBreaks = true := by cases p <;> rfl
      have hmore := @ih acc (m.after c) _ _ hr hrfeed hrbefore hrbehind hp'
        (by simp [hbreaks])
      rw [hbreaks, hfold] at hmore
      rw [if_pos hbreak, List.cons_append, read?_break hbreak, hmore]
      simp
    · have hbreak' : isBreak c = false := Bool.eq_false_iff.2 hbreak
      rw [if_neg hbreak]
      by_cases hblank : isBlank c = true
      · obtain rfl := eq_space_of_isBlank hc hblank
        obtain ⟨hnone, hnone', hp', hfold⟩ := hp.addBlank hcbehind
        have hmore := @ih acc (m.after ' ') _ _ hr hrfeed hrbefore hrbehind hp'
          (fun _ => Mark.column_pos_after rfl m)
        rw [hnone', hfold] at hmore
        have hwrite : ((if p.isBreaks = true then List.replicate indent ' ' else []) ++
            (if ' ' = '\'' then ['\'', '\''] else [' ']) ++ writeSingleFrom indent false r) =
              ' ' :: writeSingleFrom indent false r := by
          rw [hnone]
          rfl
        rw [hwrite, List.cons_append, read?_blank hblank, hmore]
        simp
      · have hblank' : isBlank c = false := Bool.eq_false_iff.2 hblank
        have hmore := @ih (c :: (p.fold.reverse ++ acc)) (m.past
          ((if p.isBreaks = true then List.replicate indent ' ' else []) ++
            (if c = '\'' then ['\'', '\''] else [c]))) .none c hr hrfeed hrbefore hrbehind
          (Pending.none_follows c) (fun _ => column_pos_writeSingle hbreak' _)
        rw [List.append_assoc, List.append_assoc,
          read?_writeSingle_char hcolumn hindent hblank' hbreak']
        refine hmore.trans ?_
        simp [Pending.fold, Pending.none, Pending.isBreaks]

/-- A text between single quotes is read back. -/
theorem read?_writeSingle {cs : List Char} {m : Mark} (h : Scalar.fitsSingle cs = true)
    (hfeed : '\n' ∉ cs) (hcolumn : 0 < m.column) (hindent : 0 < indent)
    (hrest : rest.head? ≠ some '\'') :
    read? true m .none [] (writeSingleFrom indent false cs ++ '\'' :: rest) =
      some ⟨cs, m.past (writeSingleFrom indent false cs ++ ['\'']), rest⟩ := by
  simp only [Scalar.fitsSingle, Bool.and_eq_true, List.all_eq_true, Bool.not_eq_true'] at h
  obtain ⟨⟨hprint, hbefore⟩, hbehind⟩ := h
  -- any character that is neither a space nor a break may be thought of before the first
  have hpair : ∀ {p q : Char → Bool}, p 'a' = false → Scalar.hasPair p q cs = false →
      Scalar.hasPair p q ('a' :: cs) = false := by
    intro p q hp hcs
    cases cs with
    | nil => rfl
    | cons c r => rw [Scalar.hasPair, hp, hcs]; rfl
  exact read?_writeSingleFrom (p := .none) hprint hfeed (hpair rfl hbefore) (hpair rfl hbehind)
    (Pending.none_follows 'a') (fun _ => hcolumn) hindent hrest

end Single

/-! ### Escapes -/

theorem hexDigit_spec {d : Nat} (h : d < 16) :
    hexValue? (hexDigit d) = some d ∧ isPrintable (hexDigit d) = true ∧
      isBreak (hexDigit d) = false := by
  revert d
  decide

theorem length_hexDigits (width n : Nat) : (hexDigits width n).length = width := by
  induction width generalizing n with
  | zero => rfl
  | succ width ih => rw [hexDigits, List.length_append, ih, List.length_singleton]

theorem mem_hexDigits {width n : Nat} {c : Char} (h : c ∈ hexDigits width n) :
    isPrintable c = true ∧ isBreak c = false := by
  induction width generalizing n with
  | zero => cases h
  | succ width ih =>
    rcases List.mem_append.1 h with h | h
    · exact ih h
    · rw [List.mem_singleton.1 h]
      exact (hexDigit_spec (Nat.mod_lt _ (by decide))).2

theorem hexNumber?_concat {cs : List Char} {n d : Nat} (h : hexNumber? cs = some n)
    (hd : d < 16) : hexNumber? (cs ++ [hexDigit d]) = some (16 * n + d) := by
  obtain ⟨ds, hds, rfl⟩ := Option.map_eq_some_iff.1 h
  have hlast : (cs ++ [hexDigit d]).mapM hexValue? = some (ds ++ [d]) := by
    simp [hds, (hexDigit_spec hd).1]
  rw [hexNumber?, hlast, Option.map_some, List.foldl_append]
  rfl

/-- So many digits show a number that has no more. -/
theorem hexNumber?_hexDigits {width n : Nat} (h : n < 16 ^ width) :
    hexNumber? (hexDigits width n) = some n := by
  induction width generalizing n with
  | zero =>
    obtain rfl : n = 0 := Nat.lt_one_iff.1 h
    rfl
  | succ width ih =>
    have hquotient : n / 16 < 16 ^ width := by
      rw [Nat.div_lt_iff_lt_mul (by decide), ← Nat.pow_succ]
      exact h
    rw [hexDigits, hexNumber?_concat (ih hquotient) (Nat.mod_lt _ (by decide)), Nat.div_add_mod]

/-- The escapes by name are read as they are written. -/
theorem escapedCode?_escapeLetter? {n : Nat} {letter : Char} (h : escapeLetter? n = some letter) :
    escapedCode? letter = some n ∧ escapeWidth? letter = none ∧ isPrintable letter = true ∧
      isBreak letter = false := by
  obtain ⟨before, behind, hlist, -⟩ := List.lookup_eq_some_iff.1 h
  have hall : ∀ e ∈ before ++ (n, letter) :: behind, escapedCode? e.2 = some e.1 ∧
      escapeWidth? e.2 = none ∧ isPrintable e.2 = true ∧ isBreak e.2 = false := by
    rw [← hlist]
    decide
  exact hall _ (List.mem_append_right _ (.head _))

/-- What stands behind the backslash of an escape: it is read back as the character, in the
length that it has. -/
structure IsEscape (c : Char) (e : List Char) : Prop where
  read : ∀ r, readEscape? (e ++ r) = some (c, e.length)
  nonempty : e ≠ []
  print : ∀ d ∈ e, isPrintable d = true ∧ isBreak d = false
  short : e.length < 4 * c.utf8Size

theorem isEscape_digits (width : Nat) {c letter : Char}
    (hletter : escapeWidth? letter = some width) (hn : c.toNat < 16 ^ width)
    (hprint : isPrintable letter = true ∧ isBreak letter = false)
    (hshort : width + 1 < 4 * c.utf8Size) :
    IsEscape c (letter :: hexDigits width c.toNat) := by
  refine ⟨?_, nofun, ?_, ?_⟩
  · intro r
    have hlong : ¬ (hexDigits width c.toNat ++ r).length < width := by
      rw [List.length_append, length_hexDigits]
      omega
    have htake : (hexDigits width c.toNat ++ r).take width = hexDigits width c.toNat :=
      List.take_left' (length_hexDigits width c.toNat)
    have hvalid : c.toNat.isValidChar := c.valid
    rw [List.cons_append, readEscape?, hletter]
    simp only [if_neg hlong, htake, hexNumber?_hexDigits hn, if_pos hvalid, Char.ofNat_toNat,
      List.length_cons, length_hexDigits, Nat.add_comm 1]
  · exact List.forall_mem_cons.2 ⟨hprint, fun d hd => mem_hexDigits hd⟩
  · rwa [List.length_cons, length_hexDigits]

theorem two_le_utf8Size {c : Char} (h : 0x7F < c.toNat) : 2 ≤ c.utf8Size := by
  rw [Char.utf8Size]
  split
  · next hle => exact absurd hle (Nat.not_le.2 h)
  · split
    · exact Nat.le_refl 2
    · split <;> decide

theorem four_le_utf8Size {c : Char} (h : 0xFFFF < c.toNat) : 4 ≤ c.utf8Size := by
  rw [Char.utf8Size]
  split
  · next hle => exact absurd (Nat.le_trans hle (by decide)) (Nat.not_le.2 h)
  · split
    · next hle => exact absurd (Nat.le_trans hle (by decide)) (Nat.not_le.2 h)
    · split
      · next hle => exact absurd hle (Nat.not_le.2 h)
      · exact Nat.le_refl 4

theorem exists_isEscape (c : Char) : ∃ e, escapeSequence c = '\\' :: e ∧ IsEscape c e := by
  unfold escapeSequence
  split
  · next letter hletter =>
    obtain ⟨hcode, hwidth, hprint⟩ := escapedCode?_escapeLetter? hletter
    refine ⟨[letter], rfl, ?_, nofun, ?_, ?_⟩
    · intro r
      rw [List.singleton_append, readEscape?, hwidth, hcode]
      simp only [Option.map_some, Char.ofNat_toNat, List.length_singleton]
    · intro d hd
      rw [List.mem_singleton.1 hd]
      exact hprint
    · have hsize := c.utf8Size_pos
      rw [List.length_singleton]
      omega
  · split
    · next hn =>
      have hsize := c.utf8Size_pos
      exact ⟨_, rfl, isEscape_digits 2 rfl (Nat.lt_succ_of_le hn) (by decide) (by omega)⟩
    · next hbyte =>
      split
      · next hn =>
        have hsize := two_le_utf8Size (c := c) (by omega)
        exact ⟨_, rfl, isEscape_digits 4 rfl (Nat.lt_succ_of_le hn) (by decide) (by omega)⟩
      · next hwide =>
        have hn : c.toNat < 16 ^ 8 := by
          have hvalid : c.toNat.isValidChar := c.valid
          rcases hvalid with h | ⟨-, h⟩ <;> omega
        have hsize := four_le_utf8Size (c := c) (by omega)
        exact ⟨_, rfl, isEscape_digits 8 rfl hn (by decide) (by omega)⟩

/-! ### Double quotes -/

section Double

variable {c : Char} {m : Mark} {acc rest : List Char}

/-- No character between double quotes makes a new line. -/
theorem mem_writeChar {d : Char} (h : d ∈ writeChar c) :
    isPrintable d = true ∧ isBreak d = false := by
  unfold writeChar at h
  split at h
  · obtain ⟨e, he, hescape⟩ := exists_isEscape c
    rw [he] at h
    rcases List.mem_cons.1 h with rfl | h
    · exact ⟨rfl, rfl⟩
    · exact hescape.print d h
  · next hneeds =>
    rw [List.mem_singleton.1 h]
    simp only [needsEscape, Bool.or_eq_true, Bool.not_eq_true', not_or] at hneeds
    exact ⟨Bool.not_eq_false _ ▸ hneeds.1.1.1, Bool.eq_false_iff.2 hneeds.1.1.2⟩

theorem past_writeChar (c : Char) (m : Mark) :
    m.past (writeChar c) = m.skip (writeChar c).length :=
  Mark.past_of_not_isBreak (fun _ hd => (mem_writeChar hd).2) m

/-- A character between double quotes is read back, unless it is a space. -/
theorem read?_writeChar {p : Pending} {r : List Char} (hspace : c ≠ ' ') (hcolumn : 0 < m.column) :
    read? false m p acc (writeChar c ++ r) =
      read? false (m.past (writeChar c)) .none (c :: (p.fold.reverse ++ acc)) r := by
  rw [past_writeChar, writeChar]
  split
  · obtain ⟨e, he, hescape⟩ := exists_isEscape c
    have hbreak : (e ++ r).head?.any isBreak = false := by
      cases e with
      | nil => exact absurd rfl hescape.nonempty
      | cons d e' => exact (hescape.print d (.head _)).2
    rw [he, List.cons_append, read?_escape hcolumn hbreak (hescape.read r), List.drop_left,
      List.length_cons, Nat.add_comm 1]
  · next hneeds =>
    simp only [needsEscape, Bool.or_eq_true, Bool.not_eq_true', not_or, Bool.not_eq_false,
      Bool.not_eq_true, beq_iff_eq] at hneeds
    obtain ⟨⟨⟨hprint, hbreak⟩, hquote⟩, hback⟩ := hneeds
    have hblank : isBlank c = false :=
      Bool.eq_false_iff.2 fun h => hspace (eq_space_of_isBlank hprint h)
    rw [List.singleton_append, read?_plainChar hcolumn hblank hbreak hquote hback,
      Mark.after_of_not_isBreak hbreak]
    rfl

theorem read?_writeChars {cs ws : List Char} (hcolumn : 0 < m.column) :
    read? false m (.blanks ws) acc (cs.flatMap writeChar ++ '"' :: rest) =
      some ⟨acc.reverse ++ ws.reverse ++ cs, m.past (cs.flatMap writeChar ++ ['"']), rest⟩ := by
  induction cs generalizing m ws acc with
  | nil =>
    rw [List.flatMap_nil, List.nil_append, read?_close hcolumn, List.append_nil]
    rfl
  | cons c r ih =>
    have hpos : 0 < (m.past (writeChar c)).column := by
      rw [past_writeChar]
      exact Nat.lt_of_lt_of_le hcolumn (Nat.le_add_right _ _)
    rw [List.flatMap_cons, List.append_assoc, List.append_assoc, Mark.past_append]
    by_cases hspace : c = ' '
    · subst hspace
      have hmore := @ih (m.past (writeChar ' ')) acc (' ' :: ws) hpos
      rw [show writeChar ' ' = [' '] from rfl, List.singleton_append, read?_blank rfl]
      refine hmore.trans ?_
      simp [show writeChar ' ' = [' '] from rfl]
    · have hmore := @ih (m.past (writeChar c)) (c :: (ws ++ acc)) [] hpos
      rw [read?_writeChar hspace hcolumn]
      simpa [Pending.fold, Pending.none] using hmore

/-- A text between double quotes is read back, whatever it is. -/
theorem read?_writeDouble {cs : List Char} (hcolumn : 0 < m.column) :
    read? false m .none [] (cs.flatMap writeChar ++ '"' :: rest) =
      some ⟨cs, m.past (cs.flatMap writeChar ++ ['"']), rest⟩ :=
  read?_writeChars hcolumn

end Double

end Quoted

end AlertRules.Yaml
