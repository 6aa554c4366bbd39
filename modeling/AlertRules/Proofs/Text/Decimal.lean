/-
AlertRules/Proofs/Text/Decimal.lean

What runs of digits stand for.  Zeros in front do not count (`value_padded`), and
zeros at the end of a fraction can be cut off (`value_mul_pow_stripZeros`): what is
left stands for the same part of one.

Writing also undoes reading, where the text is one that is written: a numeral, without
superfluous zeros in front, is the writing of its value (`digits_value`), and a run of
digits is the writing of its value in its own width (`padded_value`).

Which texts are a number of 64 bits, and which number, is said by `IsUInt64`, through digits to
the base ten and without the reader; the reader takes just these texts for numbers
(`readUInt64?_eq_some_iff`).  What is written for a number of 64 bits is one of them
(`readUInt64?_text`, `readInt64?_intText`).
-/
import Mathlib.Algebra.Group.Nat.Defs
import Mathlib.Data.List.Induction
import Mathlib.Data.Nat.Digits.Defs
import AlertRules.Proofs.Text.Trim
import AlertRules.Text.Decimal

namespace AlertRules.Text.Decimal

theorem value_append (as bs : List Char) :
    value (as ++ bs) = value as * 10 ^ bs.length + value bs := by
  induction bs using List.reverseRecOn with
  | nil => simp [value]
  | append_singleton bs b ih =>
    rw [← List.append_assoc, value_append_singleton, ih, value_append_singleton,
      List.length_append, List.length_singleton, Nat.pow_succ]
    rw [Nat.mul_add, Nat.mul_comm 10 (value as * _), Nat.mul_assoc, Nat.add_assoc]

theorem value_replicate_zero (n : Nat) : value (List.replicate n '0') = 0 := by
  induction n with
  | zero => rfl
  | succ n ih =>
    rw [List.replicate_succ', value_append_singleton, ih]
    rfl

theorem value_padded (width n : Nat) : value (padded width n) = n := by
  rw [padded, value_append, value_replicate_zero, value_digits]
  simp

/-! ### Widths -/

theorem length_digits_le {n width : Nat} (hwidth : 0 < width) (h : n < 10 ^ width) :
    (digits n).length ≤ width := by
  induction n using digits.induct generalizing width with
  | case1 n hn =>
    rw [digits, if_pos hn]
    exact hwidth
  | case2 n hn ih =>
    rw [digits, if_neg hn, List.length_append, List.length_singleton]
    obtain ⟨w, rfl⟩ : ∃ w, width = w + 1 := ⟨width - 1, by omega⟩
    rw [Nat.pow_succ] at h
    have hw : 0 < w := by
      rcases Nat.eq_zero_or_pos w with rfl | hw
      · simp at h; omega
      · exact hw
    have := ih hw (by omega)
    omega

theorem length_padded {n width : Nat} (hwidth : 0 < width) (h : n < 10 ^ width) :
    (padded width n).length = width := by
  have := length_digits_le hwidth h
  rw [padded, List.length_append, List.length_replicate]
  omega

theorem all_isDigit_padded (width n : Nat) : ∀ c ∈ padded width n, c.isDigit = true := by
  intro c hc
  rw [padded, List.mem_append] at hc
  rcases hc with hc | hc
  · rw [List.eq_of_mem_replicate hc]
    rfl
  · exact List.all_eq_true.1 (all_isDigit_digits n) c hc

/-! ### Zeros at the end -/

/-- A run of digits without the zeros at its end. -/
def stripZeros (cs : List Char) : List Char := (cs.reverse.dropWhile (· = '0')).reverse

theorem stripZeros_append (cs : List Char) :
    ∃ n, cs = stripZeros cs ++ List.replicate n '0' := exists_stripEnd_append '0' cs

theorem length_stripZeros_le (cs : List Char) : (stripZeros cs).length ≤ cs.length := by
  calc (stripZeros cs).length = (cs.reverse.dropWhile (· = '0')).length := List.length_reverse
    _ ≤ cs.reverse.length := (List.dropWhile_sublist _).length_le
    _ = cs.length := List.length_reverse

theorem stripZeros_subset (cs : List Char) : ∀ c ∈ stripZeros cs, c ∈ cs := by
  intro c hc
  obtain ⟨n, hn⟩ := stripZeros_append cs
  rw [hn]
  exact List.mem_append_left _ hc

/-- A fraction stands for the same part of one without the zeros at its end. -/
theorem value_mul_pow_stripZeros {cs : List Char} {places : Nat} (h : cs.length = places) :
    value (stripZeros cs) * 10 ^ places = value cs * 10 ^ (stripZeros cs).length := by
  obtain ⟨n, hn⟩ := stripZeros_append cs
  have hlength : places = n + (stripZeros cs).length := by
    rw [← h]
    conv => lhs; rw [hn, List.length_append, List.length_replicate]
    omega
  have hvalue : value cs = value (stripZeros cs) * 10 ^ n := by
    conv => lhs; rw [hn, value_append, value_replicate_zero, List.length_replicate]
    rfl
  rw [hvalue, hlength, Nat.pow_add, Nat.mul_assoc]

/-- The part of one that is written in a number of places is what its digits without the
zeros at the end stand for, counted in units of so many places. -/
theorem value_fraction {n places : Nat} (hplaces : 0 < places) (h : n < 10 ^ places) :
    value (stripZeros (padded places n)) * 10 ^ places /
      10 ^ (stripZeros (padded places n)).length = n := by
  rw [value_mul_pow_stripZeros (length_padded hplaces h), value_padded]
  exact Nat.mul_div_cancel _ (Nat.pow_pos (by decide))

/-! ### Writing undoes reading -/

/-- A number as it is written, without superfluous zeros in front. -/
structure IsNumeral (cs : List Char) : Prop where
  ne_nil : cs ≠ []
  isDigit : ∀ c ∈ cs, c.isDigit = true
  head : cs.head? = some '0' → cs = ['0']

theorem isDigit_iff {c : Char} : c.isDigit = true ↔ '0' ≤ c ∧ c ≤ '9' := by
  rw [Char.isDigit, Bool.and_eq_true, decide_eq_true_eq, decide_eq_true_eq]
  rfl

theorem digitValue_lt {c : Char} (h : c.isDigit = true) : digitValue c < 10 := by
  have hle : c.toNat ≤ 57 := (isDigit_iff.1 h).2
  unfold digitValue
  omega

theorem digitChar_digitValue {c : Char} (h : c.isDigit = true) : digitChar (digitValue c) = c := by
  have hge : 48 ≤ c.toNat := (isDigit_iff.1 h).1
  rw [digitChar, digitValue, show 0x30 + (c.toNat - 0x30) = c.toNat by omega, Char.ofNat_toNat]

theorem isNumeral_digits (n : Nat) : IsNumeral (digits n) := by
  refine ⟨digits_ne_nil n, List.all_eq_true.1 (all_isDigit_digits n), ?_⟩
  induction n using digits.induct with
  | case1 n h =>
    rw [digits, if_pos h]
    intro hhead
    exact congrArg (fun c => [c]) (Option.some.inj hhead)
  | case2 n h ih =>
    -- a zero in front would be the whole of the digits before the last, so `n` would be short
    rw [digits, if_neg h]
    intro hhead
    rw [List.head?_append, Option.or_of_isSome (by simp [digits_ne_nil])] at hhead
    have hzero := congrArg value (ih hhead)
    rw [value_digits] at hzero
    have : value ['0'] = 0 := rfl
    omega

theorem value_cons (c : Char) (cs : List Char) :
    value (c :: cs) = digitValue c * 10 ^ cs.length + value cs := by
  have h := value_append [c] cs
  simpa [value] using h

theorem digitValue_pos {c : Char} (h : c.isDigit = true) (hne : c ≠ '0') : 0 < digitValue c := by
  rcases Nat.eq_zero_or_pos (digitValue c) with hzero | hpos
  · have hchar := digitChar_digitValue h
    rw [hzero] at hchar
    exact absurd hchar.symm hne
  · exact hpos

/-- A numeral without its last digit is a numeral, and not that of zero. -/
theorem IsNumeral.of_append {bs : List Char} {c : Char} (h : IsNumeral (bs ++ [c]))
    (hbs : bs ≠ []) : IsNumeral bs ∧ 0 < value bs := by
  obtain ⟨b, r, rfl⟩ := List.exists_cons_of_ne_nil hbs
  have hdigit : ∀ a ∈ b :: r, a.isDigit = true := fun a ha =>
    h.isDigit a (List.mem_append_left _ ha)
  have hb : b ≠ '0' := by
    rintro rfl
    have hlen := congrArg List.length (h.head rfl)
    simp at hlen
  refine ⟨⟨hbs, hdigit, fun hhead => absurd (Option.some.inj hhead) hb⟩, ?_⟩
  have hpos := digitValue_pos (hdigit b List.mem_cons_self) hb
  rw [value_cons]
  exact Nat.add_pos_left (Nat.mul_pos hpos (Nat.pow_pos (by decide))) _

theorem digits_value {cs : List Char} (h : IsNumeral cs) : digits (value cs) = cs := by
  induction cs using List.reverseRecOn with
  | nil => exact absurd rfl h.ne_nil
  | append_singleton bs c ih =>
    have hc : c.isDigit = true := h.isDigit c (by simp)
    have hlt := digitValue_lt hc
    rw [value_append_singleton]
    rcases eq_or_ne bs [] with rfl | hbs
    · have hvalue : 10 * value [] + digitValue c = digitValue c := Nat.zero_add _
      rw [hvalue, digits, if_pos hlt, digitChar_digitValue hc]
      rfl
    · obtain ⟨hnumeral, hpos⟩ := h.of_append hbs
      rw [digits, if_neg (by omega),
        show (10 * value bs + digitValue c) / 10 = value bs by omega,
        show (10 * value bs + digitValue c) % 10 = digitValue c by omega,
        ih hnumeral, digitChar_digitValue hc]

theorem value_lt {cs : List Char} (h : ∀ c ∈ cs, c.isDigit = true) :
    value cs < 10 ^ cs.length := by
  induction cs with
  | nil => exact Nat.zero_lt_one
  | cons c r ih =>
    rw [List.forall_mem_cons] at h
    have hc := digitValue_lt h.1
    have hr := ih h.2
    have hmul : digitValue c * 10 ^ r.length ≤ 9 * 10 ^ r.length :=
      Nat.mul_le_mul_right _ (by omega)
    rw [value_cons, List.length_cons, Nat.pow_succ]
    omega

/-- Two runs of digits of one width and one value are the same. -/
theorem eq_of_value_eq {as bs : List Char} (has : ∀ c ∈ as, c.isDigit = true)
    (hbs : ∀ c ∈ bs, c.isDigit = true) (hlength : as.length = bs.length)
    (hvalue : value as = value bs) : as = bs := by
  induction as using List.reverseRecOn generalizing bs with
  | nil => exact (List.length_eq_zero_iff.1 hlength.symm).symm
  | append_singleton as a ih =>
    obtain ⟨bs, b, rfl⟩ : ∃ cs c, bs = cs ++ [c] := by
      rcases List.eq_nil_or_concat bs with rfl | ⟨cs, c, rfl⟩
      · simp at hlength
      · exact ⟨cs, c, List.concat_eq_append⟩
    have ha : a.isDigit = true := has a (by simp)
    have hb : b.isDigit = true := hbs b (by simp)
    have hlta := digitValue_lt ha
    have hltb := digitValue_lt hb
    rw [value_append_singleton, value_append_singleton] at hvalue
    have hrest : as = bs := by
      refine ih (fun c hc => has c (List.mem_append_left _ hc))
        (fun c hc => hbs c (List.mem_append_left _ hc)) ?_ (by omega)
      simpa using hlength
    have hlast : a = b := by
      rw [← digitChar_digitValue ha, ← digitChar_digitValue hb,
        show digitValue a = digitValue b by omega]
    rw [hrest, hlast]

/-- A run of digits is the writing of its value in its own width. -/
theorem padded_value {cs : List Char} (hne : cs ≠ []) (h : ∀ c ∈ cs, c.isDigit = true) :
    padded cs.length (value cs) = cs :=
  eq_of_value_eq (all_isDigit_padded _ _) h
    (length_padded (List.length_pos_iff.2 hne) (value_lt h)) (value_padded _ _)

/-! ### Fractions -/

theorem stripZeros_append_replicate {cs : List Char} (h : cs.getLast? ≠ some '0') (n : Nat) :
    stripZeros (cs ++ List.replicate n '0') = cs := stripEnd_append_replicate h n

theorem getLast?_stripZeros (cs : List Char) : (stripZeros cs).getLast? ≠ some '0' :=
  getLast?_stripEnd '0' cs

/-- What may follow a whole number: nothing, or a point and a fraction of at most so many
digits, the last of which is no zero. -/
inductive IsFraction (places : Nat) : List Char → Prop
  | none : IsFraction places []
  | some {ds : List Char} : ds ≠ [] → ds.length ≤ places → (∀ c ∈ ds, c.isDigit = true) →
      ds.getLast? ≠ some '0' → IsFraction places ('.' :: ds)

/-! ### Runs of digits -/

/-- The characters are digits that stand for the number, the most significant digit first. -/
structure DigitsOf (n : Nat) (ds : List Char) : Prop where
  ne_nil : ds ≠ []
  isDigit : ∀ c ∈ ds, '0' ≤ c ∧ c ≤ '9'
  value : Nat.ofDigits 10 (ds.reverse.map fun c => c.toNat - '0'.toNat) = n

/-- The digits of a number, with or without a plus sign in front. -/
inductive IsUnsigned (n : Nat) : List Char → Prop
  | plain {ds : List Char} : DigitsOf n ds → IsUnsigned n ds
  | plus {ds : List Char} : DigitsOf n ds → IsUnsigned n ('+' :: ds)

section Reading

variable {n bound : Nat} {cs ds r : List Char}

theorem ofDigits_eq_value (ds : List Char) :
    Nat.ofDigits 10 (ds.reverse.map fun c => c.toNat - '0'.toNat) = value ds := by
  induction ds using List.reverseRecOn with
  | nil => rfl
  | append_singleton ds d ih =>
    rw [List.reverse_concat, List.map_cons, Nat.ofDigits_cons, ih, value_append_singleton,
      Nat.add_comm]
    rfl

theorem read?_eq_some_iff : read? ds = some n ↔ DigitsOf n ds := by
  have hdigits : (!ds.isEmpty && ds.all Char.isDigit) = true ↔
      ds ≠ [] ∧ ∀ c ∈ ds, '0' ≤ c ∧ c ≤ '9' := by
    simp only [Bool.and_eq_true, Bool.not_eq_true', List.isEmpty_eq_false_iff, List.all_eq_true,
      isDigit_iff]
  unfold read?
  split
  · next h =>
    rw [hdigits] at h
    rw [Option.some.injEq, ← ofDigits_eq_value]
    exact ⟨fun hvalue => ⟨h.1, h.2, hvalue⟩, DigitsOf.value⟩
  · next h =>
    constructor
    · intro hnone
      cases hnone
    · intro hof
      exact absurd (hdigits.2 ⟨hof.ne_nil, hof.isDigit⟩) h

theorem not_digitsOf_cons {c : Char} (hc : c.isDigit = false) : ¬ DigitsOf n (c :: r) := by
  intro h
  have hdigit := isDigit_iff.2 (h.isDigit c List.mem_cons_self)
  rw [hc] at hdigit
  cases hdigit

/-- At most one plus sign is passed over, and the number has to be below the bound. -/
theorem readBelow?_eq_some_iff : readBelow? bound cs = some n ↔ IsUnsigned n cs ∧ n < bound := by
  unfold readBelow?
  rw [Option.filter_eq_some_iff, decide_eq_true_eq, read?_eq_some_iff]
  refine and_congr_left fun _ => ?_
  split
  · next r =>
    refine ⟨.plus, fun h => ?_⟩
    cases h with
    | plain h => exact absurd h (not_digitsOf_cons rfl)
    | plus h => exact h
  · next hplus =>
    refine ⟨.plain, fun h => ?_⟩
    cases h with
    | plain h => exact h
    | plus => exact absurd rfl (hplus _)

theorem digitsOf_digits (n : Nat) : DigitsOf n (digits n) where
  ne_nil := digits_ne_nil n
  isDigit := fun c hc => isDigit_iff.1 (List.all_eq_true.1 (all_isDigit_digits n) c hc)
  value := (ofDigits_eq_value _).trans (value_digits n)

end Reading

/-! ### Numbers of 64 bits -/

/-- The text is the number in decimal, with or without a plus sign in front. -/
def IsUInt64 (text : String) (n : UInt64) : Prop := IsUnsigned n.toNat text.toList

section SixtyFourBits

variable {s : String} {n : UInt64}

theorem readUInt64?_eq_some_iff : readUInt64? s = some n ↔ IsUInt64 s n := by
  unfold readUInt64?
  rw [Option.map_eq_some_iff]
  constructor
  · rintro ⟨m, hm, rfl⟩
    obtain ⟨hunsigned, hlt⟩ := readBelow?_eq_some_iff.1 hm
    rw [IsUInt64, UInt64.toNat_ofNat_of_lt' hlt]
    exact hunsigned
  · intro h
    exact ⟨n.toNat, readBelow?_eq_some_iff.2 ⟨h, n.toNat_lt⟩, UInt64.ofNat_toNat⟩

theorem readUInt64?_eq_none_iff : readUInt64? s = none ↔ ∀ n, ¬ IsUInt64 s n := by
  rw [Option.eq_none_iff_forall_ne_some]
  exact forall_congr' fun n => not_congr readUInt64?_eq_some_iff

theorem readUInt64?_text (n : UInt64) : readUInt64? (text n.toNat) = some n := by
  rw [readUInt64?_eq_some_iff, IsUInt64, text, String.toList_ofList]
  exact .plain (digitsOf_digits _)

end SixtyFourBits

theorem readInt64?_intText (n : Int64) : readInt64? (intText n.toInt) = some n := by
  have hlow := Int64.le_toInt n
  have hhigh := Int64.toInt_lt n
  unfold intText
  split
  · next hneg =>
    have hlist : ("-" ++ text n.toInt.natAbs).toList = '-' :: digits n.toInt.natAbs := by
      simp [text]
    have hle : n.toInt.natAbs ≤ Nat.pow 2 63 := by
      show n.toInt.natAbs ≤ 9223372036854775808
      omega
    have habs : -(n.toInt.natAbs : Int) = n.toInt := by omega
    unfold readInt64?
    rw [hlist]
    simp only [read?_eq_some_iff.2 (digitsOf_digits n.toInt.natAbs), Option.filter_some,
      decide_eq_true hle, if_true]
    show some (Int64.ofInt (-(n.toInt.natAbs : Int))) = some n
    rw [habs, Int64.ofInt_toInt]
  · next hpos =>
    have hlt : n.toInt.natAbs < Nat.pow 2 63 := by
      show n.toInt.natAbs < 9223372036854775808
      omega
    have habs : (n.toInt.natAbs : Int) = n.toInt := by omega
    unfold readInt64?
    rw [text, String.toList_ofList]
    split
    · next r heq =>
      have hof := digitsOf_digits n.toInt.natAbs
      rw [heq] at hof
      exact absurd hof (not_digitsOf_cons rfl)
    · rw [readBelow?_eq_some_iff.2 ⟨.plain (digitsOf_digits _), hlt⟩]
      show some (Int64.ofInt (n.toInt.natAbs : Int)) = some n
      rw [habs, Int64.ofInt_toInt]

end AlertRules.Text.Decimal
