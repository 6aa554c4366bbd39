/-
AlertRules/Proofs/Text/UpperCase.lean

Upper-casing twice is upper-casing once (`upperCase_upperCase`).  A character changes only if its
code point is covered by one of the ranges `changing`, and the characters into which others change
are in none of them.  For the runs this is checked range by range: the range into which a run moves
lies on one side of every range that changes, or both go in steps of two and their code points
differ in parity (`apart_runs`).
-/
import Mathlib.Data.List.Basic
import AlertRules.Text.UpperCase

namespace AlertRules.Text

/-! ### Ranges of code points -/

/-- The code points from the first to the last in steps. -/
structure CodeRange where
  first : Nat
  last : Nat
  step : Nat

namespace CodeRange

def Covers (r : CodeRange) (n : Nat) : Prop :=
  r.first ≤ n ∧ n ≤ r.last ∧ (n - r.first) % r.step = 0

/-- Whether two ranges are apart: one ends before the other begins, or both go in steps of two
between each other's code points. -/
def apart (r s : CodeRange) : Bool :=
  Nat.blt r.last s.first || (Nat.blt s.last r.first ||
    (Nat.beq r.step 2 && (Nat.beq s.step 2 && Nat.beq ((r.first + s.first) % 2) 1)))

theorem not_covers_of_apart {r s : CodeRange} {n : Nat} (h : r.apart s = true) (hn : r.Covers n) :
    ¬ s.Covers n := by
  obtain ⟨hfirst, hlast, hstep⟩ := hn
  rintro ⟨hfirst', hlast', hstep'⟩
  simp only [apart, Bool.or_eq_true, Bool.and_eq_true, Nat.blt_eq, Nat.beq_eq] at h
  rcases h with h | h | ⟨hr, hs, hparity⟩
  · omega
  · omega
  · rw [hr] at hstep
    rw [hs] at hstep'
    omega

end CodeRange

/-- The ranges of the code points that change. -/
def changing : List CodeRange :=
  ⟨0x61, 0x7A, 1⟩ :: (upperRuns.map fun r => ⟨r.1, r.2.1, r.2.2.1⟩) ++
    upperSequences.map fun e => ⟨e.1, e.1, 1⟩

/-- The range into which a run moves; a single code point goes in any steps. -/
def moved (r : Nat × Nat × Nat × Int) : CodeRange :=
  ⟨(r.1 + r.2.2.2).toNat, (r.2.1 + r.2.2.2).toNat, if Nat.beq r.1 r.2.1 then 2 else r.2.2.1⟩

theorem apart_runs : upperRuns.all (fun r => changing.all (moved r).apart) = true := by
  decide +kernel

theorem apart_sequences : upperSequences.all (fun e =>
    e.2.all fun n => changing.all (CodeRange.mk n n 2).apart) = true := by
  decide +kernel

theorem moved_below_zero : upperRuns.all (fun r => decide (0 ≤ r.1 + r.2.2.2)) = true := by
  decide +kernel

/-- A run moves into its range. -/
theorem covers_moved {first last step : Nat} {shift : Int} {n : Nat} (hzero : 0 ≤ first + shift)
    (h : (CodeRange.mk first last step).Covers n) :
    (moved (first, last, step, shift)).Covers (n + shift).toNat := by
  obtain ⟨hfirst, hlast, hstep⟩ : first ≤ n ∧ n ≤ last ∧ (n - first) % step = 0 := h
  have hoffset : ((n : Int) + shift).toNat - ((first : Int) + shift).toNat = n - first := by omega
  have hlow : ((first : Int) + shift).toNat ≤ ((n : Int) + shift).toNat := by omega
  have hhigh : ((n : Int) + shift).toNat ≤ ((last : Int) + shift).toNat := by omega
  refine ⟨hlow, hhigh, ?_⟩
  simp only [moved, hoffset]
  split
  · next hsingle =>
    have heq : first = last := Nat.eq_of_beq_eq_true hsingle
    rw [show n - first = 0 by omega, Nat.zero_mod]
  · exact hstep

/-! ### Characters that stay -/

/-- The code point is in none of the ranges that change. -/
def Stays (n : Nat) : Prop := ∀ r ∈ changing, ¬ r.Covers n

theorem toUpper_of_stays {c : Char} (h : Stays c.toNat) : c.toUpper = c := by
  have hletter := h ⟨0x61, 0x7A, 1⟩ List.mem_cons_self
  unfold Char.toUpper
  split
  · next hlower => exact (hletter ⟨hlower.1, hlower.2, Nat.mod_one _⟩).elim
  · rfl

/-- The run that is found for a code point covers it. -/
theorem covers_of_find? {n first last step : Nat} {shift : Int}
    (h : upperRuns.find? (fun (first, last, step, _) =>
      first ≤ n && n ≤ last && (n - first) % step == 0) = some (first, last, step, shift)) :
    (CodeRange.mk first last step).Covers n := by
  have hcovers := List.find?_some h
  simp only [Bool.and_eq_true, decide_eq_true_eq, beq_iff_eq] at hcovers
  exact ⟨hcovers.1.1, hcovers.1.2, hcovers.2⟩

theorem upperSingle_of_stays {n : Nat} (h : Stays n) : upperSingle n = n := by
  unfold upperSingle
  split
  · next r first last step shift hfind =>
    have hmem : (⟨first, last, step⟩ : CodeRange) ∈ changing :=
      List.mem_append_left _ (List.mem_cons_of_mem _
        (List.mem_map_of_mem (List.mem_of_find?_eq_some hfind)))
    exact (h _ hmem (covers_of_find? hfind)).elim
  · rfl

theorem lookup_of_stays {n : Nat} (h : Stays n) : upperSequences.lookup n = none := by
  rw [List.lookup_eq_none_iff]
  intro e he
  have hmem : (⟨e.1, e.1, 1⟩ : CodeRange) ∈ changing :=
    List.mem_append_right _ (List.mem_map_of_mem he)
  rw [bne_iff_ne]
  rintro rfl
  exact h _ hmem ⟨Nat.le_refl _, Nat.le_refl _, Nat.mod_one _⟩

theorem upperChar_of_stays {n : Nat} (h : Stays n) :
    upperChar (Char.ofNat n) = [Char.ofNat n] := by
  by_cases hvalid : n.isValidChar
  · have hn : (Char.ofNat n).toNat = n := by
      rw [Char.ofNat, dif_pos hvalid]
      rfl
    have hupper : (Char.ofNat n).toUpper = Char.ofNat n := toUpper_of_stays (by rwa [hn])
    unfold upperChar
    rw [hupper, hn, lookup_of_stays h, upperSingle_of_stays h, ite_self]
  · -- what is no code point of a character gives the null character
    have hnull : Char.ofNat n = Char.ofNat 0 := dif_neg hvalid
    rw [hnull]
    rfl

/-! ### Upper case -/

theorem upperChar_of_ascii {c : Char} (h : c.toNat < 0x80) :
    upperChar c.toUpper = [c.toUpper] := by
  have hall : ∀ n < 0x80, upperChar (Char.ofNat n).toUpper = [(Char.ofNat n).toUpper] := by decide
  have hc := hall c.toNat h
  rwa [Char.ofNat_toNat] at hc

theorem stays_of_sequence {n m : Nat} {ns : List Nat} (h : upperSequences.lookup n = some ns)
    (hm : m ∈ ns) : Stays m := by
  obtain ⟨before, after, heq, -⟩ := List.lookup_eq_some_iff.1 h
  have hmem : (n, ns) ∈ upperSequences := by
    rw [heq]
    exact List.mem_append_right _ List.mem_cons_self
  intro r hr
  have hranges := List.all_eq_true.1 (List.all_eq_true.1 apart_sequences _ hmem) _ hm
  have hapart := List.all_eq_true.1 hranges r hr
  exact CodeRange.not_covers_of_apart hapart ⟨Nat.le_refl _, Nat.le_refl _, by simp⟩

/-- A character stands alone above ASCII, and what becomes of it stays. -/
theorem upperSingle_stays_or_eq (n : Nat) : Stays (upperSingle n) ∨ upperSingle n = n := by
  unfold upperSingle
  split
  · next r first last step shift hfind =>
    left
    have hmem := List.mem_of_find?_eq_some hfind
    have hzero := of_decide_eq_true (List.all_eq_true.1 moved_below_zero _ hmem)
    intro s hs
    have hapart := List.all_eq_true.1 (List.all_eq_true.1 apart_runs _ hmem) s hs
    exact CodeRange.not_covers_of_apart hapart
      (covers_moved hzero (covers_of_find? hfind))
  · exact .inr rfl

theorem upperChar_of_lookup_eq_some {c : Char} {ns : List Nat} (habove : ¬ c.toNat < 0x80)
    (h : upperSequences.lookup c.toNat = some ns) : upperChar c = ns.map Char.ofNat := by
  rw [upperChar, if_neg habove, h]

theorem upperChar_of_lookup_eq_none {c : Char} (habove : ¬ c.toNat < 0x80)
    (h : upperSequences.lookup c.toNat = none) :
    upperChar c = [Char.ofNat (upperSingle c.toNat)] := by
  rw [upperChar, if_neg habove, h]

/-- The characters into which a character is upper-cased stay. -/
theorem upperChar_of_mem {c d : Char} (h : d ∈ upperChar c) : upperChar d = [d] := by
  by_cases habove : c.toNat < 0x80
  · rw [upperChar, if_pos habove, List.mem_singleton] at h
    rw [h]
    exact upperChar_of_ascii habove
  · cases hlookup : upperSequences.lookup c.toNat with
    | some ns =>
      rw [upperChar_of_lookup_eq_some habove hlookup] at h
      obtain ⟨n, hn, rfl⟩ := List.mem_map.1 h
      exact upperChar_of_stays (stays_of_sequence hlookup hn)
    | none =>
      have hc := upperChar_of_lookup_eq_none habove hlookup
      rw [hc, List.mem_singleton] at h
      -- a single character moves to where all stay, or did not move
      rcases upperSingle_stays_or_eq c.toNat with hstays | heq
      · rw [h]
        exact upperChar_of_stays hstays
      · rw [heq, Char.ofNat_toNat] at h hc
        rw [h, hc]

theorem upperCase_upperCase (s : String) : upperCase (upperCase s) = upperCase s := by
  have hstay : (s.toList.flatMap upperChar).flatMap upperChar = s.toList.flatMap upperChar := by
    have heach : ∀ d ∈ s.toList.flatMap upperChar, upperChar d = [d] := by
      intro d hd
      obtain ⟨c, -, hdc⟩ := List.mem_flatMap.1 hd
      exact upperChar_of_mem hdc
    rw [List.flatMap_congr heach, List.flatMap_singleton']
  rw [upperCase, upperCase, String.toList_ofList, hstay]

end AlertRules.Text
