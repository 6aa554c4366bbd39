/-
AlertRules/Proofs/Yaml/Char.lean

The characters that a writer leaves as they are, and positions in what it has written.
Printable characters are allowed in documents, and of a text of printable characters no
break is changed when it is read, so reading starts from the text as it was written.

The position behind a text is `Mark.past`; readers say where they stop by it.
-/
import AlertRules.Yaml.Char

namespace AlertRules.Yaml

/-! ### Printable characters -/

theorem isAllowed_of_isPrintable {c : Char} (h : isPrintable c = true) : isAllowed c = true := by
  simp only [isPrintable, isAllowed, Bool.or_eq_true, Bool.and_eq_true, beq_iff_eq,
    decide_eq_true_eq] at h ⊢
  omega

theorem ne_of_isPrintable {c d : Char} (h : isPrintable c = true) (hd : isPrintable d = false) :
    c ≠ d := by
  rintro rfl
  rw [h] at hd
  cases hd

/-- The only blank that is printable is the space. -/
theorem eq_space_of_isBlank {c : Char} (h : isPrintable c = true) (hblank : isBlank c = true) :
    c = ' ' := by
  have htab : c ≠ '\t' := ne_of_isPrintable h (by decide)
  simpa [isBlank, htab] using hblank

theorem unifyBreaks_of_isPrintable {cs : List Char} (h : ∀ c ∈ cs, isPrintable c = true) :
    unifyBreaks cs = cs := by
  fun_induction unifyBreaks cs with
  | case1 => rfl
  | case2 r ih => exact absurd (h '\r' (.head _)) (by decide)
  | case3 c r hne ih =>
    rw [List.forall_mem_cons] at h
    have hreturn : c ≠ '\r' := ne_of_isPrintable h.1 (by decide)
    have hnext : c ≠ '\u0085' := ne_of_isPrintable h.1 (by decide)
    rw [ih h.2, if_neg (not_or.2 ⟨hreturn, hnext⟩)]

/-! ### Where a token starts -/

/-- Nothing more, or text that goes on with neither white space nor a comment. -/
def StartsToken : List Char → Prop
  | [] => True
  | c :: _ => isBlank c = false ∧ isBreak c = false ∧ c ≠ '#' ∧ c ≠ byteOrderMark

theorem startsBlank_append {cs : List Char} (h : startsBlank cs = false) (rest : List Char) :
    startsBlank (cs ++ rest) = false := by
  cases cs with
  | nil => cases h
  | cons c r => exact h

/-! ### Positions -/

namespace Mark

/-- The position behind a text. -/
def past (m : Mark) (cs : List Char) : Mark := cs.foldl after m

@[simp] theorem past_nil (m : Mark) : m.past [] = m := rfl

@[simp] theorem past_cons (m : Mark) (c : Char) (cs : List Char) :
    m.past (c :: cs) = (m.after c).past cs := rfl

@[simp] theorem past_append (m : Mark) (cs ds : List Char) :
    m.past (cs ++ ds) = (m.past cs).past ds := List.foldl_append

theorem after_of_not_isBreak {c : Char} (h : isBreak c = false) (m : Mark) :
    m.after c = m.skip 1 := by
  rw [after, h]
  rfl

theorem after_of_isBreak {c : Char} (h : isBreak c = true) (m : Mark) :
    m.after c = ⟨m.index + 1, m.line + 1, 0⟩ := by
  rw [after, if_pos h]

theorem skip_skip (m : Mark) (a b : Nat) : (m.skip a).skip b = m.skip (a + b) := by
  simp only [skip, Nat.add_assoc]

theorem past_of_not_isBreak {cs : List Char} (h : ∀ c ∈ cs, isBreak c = false) (m : Mark) :
    m.past cs = m.skip cs.length := by
  induction cs generalizing m with
  | nil => rfl
  | cons c r ih =>
    rw [List.forall_mem_cons] at h
    rw [past_cons, after_of_not_isBreak h.1, ih h.2, skip_skip, List.length_cons, Nat.add_comm]

theorem past_replicate (m : Mark) (n : Nat) : m.past (List.replicate n ' ') = m.skip n := by
  have hspaces : ∀ c ∈ List.replicate n ' ', isBreak c = false := by
    intro c hc
    rw [List.eq_of_mem_replicate hc]
    rfl
  rw [past_of_not_isBreak hspaces, List.length_replicate]

/-- Positions come in the order of the lines. -/
theorem line_le_past (m : Mark) (cs : List Char) : m.line ≤ (m.past cs).line := by
  induction cs generalizing m with
  | nil => exact Nat.le_refl _
  | cons c r ih =>
    refine Nat.le_trans ?_ (ih (m.after c))
    rw [after]
    split
    · exact Nat.le_succ _
    · exact Nat.le_refl _

/-- Behind a character that is no break the column is not zero. -/
theorem column_pos_after {c : Char} (h : isBreak c = false) (m : Mark) :
    0 < (m.after c).column := by
  rw [after_of_not_isBreak h]
  exact Nat.succ_pos _

/-- Behind a break and spaces the column is the number of the spaces. -/
theorem past_indentation {c : Char} (h : isBreak c = true) (m : Mark) (n : Nat) :
    m.past (c :: List.replicate n ' ') = ⟨m.index + 1 + n, m.line + 1, n⟩ := by
  rw [past_cons, past_replicate, after_of_isBreak h, skip, Nat.zero_add]

end Mark

end AlertRules.Yaml
