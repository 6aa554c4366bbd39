/-
AlertRules/Text/Order.lean

The order of texts by the code points of their characters, the first difference
deciding; it is also the order of their UTF-8 bytes.
-/

namespace AlertRules.Text

def before : List Char → List Char → Bool
  | _, [] => false
  | [], _ :: _ => true
  | a :: r, b :: s => if a = b then before r s else Nat.blt a.toNat b.toNat

/-- Whether a text comes before another. -/
def precedes (a b : String) : Bool := before a.toList b.toList

theorem blt_iff {m n : Nat} : Nat.blt m n = true ↔ m < n := Iff.of_eq Nat.blt_eq

theorem before_trans {a b c : List Char} (hab : before a b = true) (hbc : before b c = true) :
    before a c = true := by
  induction a generalizing b c with
  | nil =>
    cases b with
    | nil => simp [before] at hab
    | cons _ _ =>
      cases c with
      | nil => simp [before] at hbc
      | cons _ _ => rfl
  | cons x r ih =>
    cases b with
    | nil => simp [before] at hab
    | cons y s =>
      cases c with
      | nil => simp [before] at hbc
      | cons z t =>
        unfold before at hab hbc ⊢
        by_cases hxy : x = y
        · subst hxy
          by_cases hxz : x = z
          · subst hxz
            simp only [if_true] at hab hbc ⊢
            exact ih hab hbc
          · simpa [hxz] using hbc
        · rw [if_neg hxy, blt_iff] at hab
          by_cases hyz : y = z
          · subst hyz
            rw [if_neg hxy, blt_iff]
            exact hab
          · rw [if_neg hyz, blt_iff] at hbc
            have hxz : x ≠ z := fun h => by subst h; omega
            rw [if_neg hxz, blt_iff]
            omega

theorem before_irrefl (a : List Char) : before a a = false := by
  induction a with
  | nil => rfl
  | cons c r ih => simp [before, ih]

/-- Of two texts that are not the same, one comes before the other. -/
theorem eq_of_not_before {a b : List Char} (hab : before a b = false)
    (hba : before b a = false) : a = b := by
  induction a generalizing b with
  | nil =>
    cases b with
    | nil => rfl
    | cons _ _ => simp [before] at hab
  | cons x r ih =>
    cases b with
    | nil => simp [before] at hba
    | cons y s =>
      unfold before at hab hba
      by_cases hxy : x = y
      · subst hxy
        simp only [if_true] at hab hba
        rw [ih hab hba]
      · rw [if_neg hxy, ← Bool.not_eq_true, blt_iff] at hab
        rw [if_neg (Ne.symm hxy), ← Bool.not_eq_true, blt_iff] at hba
        exact absurd (Char.toNat_inj.1 (by omega)) hxy

theorem precedes_trans {a b c : String} (hab : precedes a b = true)
    (hbc : precedes b c = true) : precedes a c = true := before_trans hab hbc

theorem precedes_irrefl (a : String) : precedes a a = false := before_irrefl _

theorem eq_of_not_precedes {a b : String} (hab : precedes a b = false)
    (hba : precedes b a = false) : a = b :=
  String.toList_inj.1 (eq_of_not_before hab hba)

end AlertRules.Text
