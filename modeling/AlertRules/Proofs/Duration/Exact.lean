/-
AlertRules/Proofs/Duration/Exact.lean

Durations as exact numbers.  The amount of a component is the decimal number that is written
times its unit, with all digits of its fraction (`Component.amount`).  The reader looks at
eighteen of them and gives whole nanoseconds, so in general it gives less.

Where the amount is a whole number of nanoseconds, nothing is lost.  Powers of ten in the
denominator must then be made up for by the unit, and the units do not have more than sixteen
factors of two or five (`not_pow_dvd_scale`).  So of such a fraction all that is cut off behind
the eighteenth digit are zeros (`length_stripZeros_le_of_dvd`), and what is read is the amount
(`Component.nanos_eq_amount`).  Hence the reading of such a text depends on the sum of its
amounts alone, however they are spelled (`exact_spellings`).
-/
import Mathlib.Data.Nat.Prime.Basic
import Mathlib.Data.Rat.Cast.Order
import Mathlib.Tactic.FieldSimp
import Mathlib.Tactic.Ring
import AlertRules.Proofs.Duration.Canonical
import AlertRules.Proofs.Duration.Grammar
import AlertRules.Proofs.Duration.Length

namespace AlertRules.Duration

open Text Text.Decimal

/-! ### Fractions of a unit -/

section Fraction

variable {unit ds : List Char} {scale : Nat}

theorem not_pow_dvd_scale : ∀ u ∈ units, ¬ 2 ^ 19 ∣ u.2 ∧ ¬ 5 ^ 19 ∣ u.2 := by decide

/-- If so many digits of which the last is no zero make up a whole number of nanoseconds, there
are no more than eighteen. -/
theorem places_le {n places : Nat} (hunit : (unit, scale) ∈ units) (hn : ¬ 10 ∣ n)
    (hdvd : 10 ^ places ∣ n * scale) : places ≤ 18 := by
  by_contra hmore
  -- a prime factor of ten that is not in the number is in the unit, so many times
  have hscale : ∀ p, p.Prime → p ∣ 10 → ¬ p ∣ n → p ^ 19 ∣ scale := by
    intro p hp hten hpn
    have hcoprime : Nat.Coprime (p ^ 19) n :=
      Nat.Coprime.pow_left 19 ((Nat.Prime.coprime_iff_not_dvd hp).2 hpn)
    have hpow : p ^ 19 ∣ 10 ^ places :=
      (pow_dvd_pow_of_dvd hten 19).trans (pow_dvd_pow 10 (by omega))
    exact hcoprime.dvd_of_dvd_mul_left (hpow.trans hdvd)
  obtain ⟨htwo, hfive⟩ := not_pow_dvd_scale _ hunit
  by_cases heven : 2 ∣ n
  · have hno : ¬ 5 ∣ n := fun h =>
      hn (Nat.Coprime.mul_dvd_of_dvd_of_dvd (by decide : Nat.Coprime 2 5) heven h)
    exact hfive (hscale 5 Nat.prime_five (by decide) hno)
  · exact htwo (hscale 2 Nat.prime_two (by decide) heven)

/-- A run of digits that does not end in a zero is no multiple of ten. -/
theorem not_dvd_value (hdigit : ∀ c ∈ ds, c.isDigit = true) (hne : ds ≠ [])
    (hlast : ds.getLast? ≠ some '0') : ¬ 10 ∣ value ds := by
  obtain ⟨bs, c, rfl⟩ : ∃ bs c, ds = bs ++ [c] := ⟨_, _, (List.dropLast_concat_getLast hne).symm⟩
  have hc : c.isDigit = true := hdigit c (by simp)
  have hpos := digitValue_pos hc fun h => hlast (by simp [h])
  have hlt := digitValue_lt hc
  rw [value_append_singleton]
  omega

/-- Of a fraction that makes up a whole number of nanoseconds, all digits behind the eighteenth
are zeros. -/
theorem length_stripZeros_le_of_dvd (hunit : (unit, scale) ∈ units)
    (hdigit : ∀ c ∈ ds, c.isDigit = true) (hdvd : 10 ^ ds.length ∣ value ds * scale) :
    (stripZeros ds).length ≤ 18 := by
  rcases eq_or_ne (stripZeros ds) [] with hnil | hne
  · rw [hnil]
    exact Nat.zero_le _
  have hstripped : ¬ 10 ∣ value (stripZeros ds) :=
    not_dvd_value (fun c hc => hdigit c (stripZeros_subset ds c hc)) hne (getLast?_stripZeros ds)
  refine places_le hunit hstripped ?_
  -- the zeros at the end are in the number and in the power alike
  have hvalue : value (stripZeros ds) * 10 ^ ds.length =
      value ds * 10 ^ (stripZeros ds).length := value_mul_pow_stripZeros rfl
  have hpow : 0 < 10 ^ ds.length := Nat.pow_pos (by decide)
  obtain ⟨q, hq⟩ := hdvd
  refine ⟨q, Nat.eq_of_mul_eq_mul_right hpow ?_⟩
  calc value (stripZeros ds) * scale * 10 ^ ds.length
      = value (stripZeros ds) * 10 ^ ds.length * scale := by ring
    _ = value ds * scale * 10 ^ (stripZeros ds).length := by rw [hvalue]; ring
    _ = 10 ^ (stripZeros ds).length * q * 10 ^ ds.length := by rw [hq]; ring

/-- The first eighteen digits of such a fraction stand for all of it. -/
theorem value_take_mul_pow (h : (stripZeros ds).length ≤ 18) :
    value (ds.take 18) * 10 ^ ds.length = value ds * 10 ^ (ds.take 18).length := by
  obtain ⟨n, hn⟩ := stripZeros_append ds
  generalize stripZeros ds = kept at h hn
  subst hn
  rw [List.take_append, List.take_of_length_le h, List.take_replicate]
  simp only [value_append, value_replicate_zero, List.length_append, List.length_replicate]
  ring

end Fraction

/-! ### Amounts -/

namespace Component

variable (c : Component)

/-- The digits behind the point, if there are any. -/
def digits : List Char := c.fraction.getD []

/-- The decimal number that is written, times its unit. -/
def amount : ℚ := (value c.whole + value c.digits / 10 ^ c.digits.length) * c.scale

/-- The amount is a whole number of nanoseconds. -/
def IsWhole : Prop := ∃ n : ℕ, c.amount = n

theorem isDigit_digits : ∀ a ∈ c.digits, a.isDigit = true := by
  intro a ha
  cases hf : c.fraction with
  | none =>
    rw [digits, hf] at ha
    cases ha
  | some ds =>
    rw [digits, hf] at ha
    exact c.isDigit_fraction ds hf a ha

/-- The amount is whole if the unit makes up for the denominator. -/
theorem isWhole_iff : c.IsWhole ↔ 10 ^ c.digits.length ∣ value c.digits * c.scale := by
  have hpow : (10 : ℚ) ^ c.digits.length ≠ 0 := pow_ne_zero _ (by norm_num)
  have hamount : ∀ n : ℕ, c.amount = n ↔
      value c.whole * c.scale * 10 ^ c.digits.length + value c.digits * c.scale =
        n * 10 ^ c.digits.length := by
    intro n
    rw [amount, ← Nat.cast_inj (R := ℚ)]
    push_cast
    field_simp
  constructor
  · rintro ⟨n, hn⟩
    have hsum := (hamount n).1 hn
    exact (Nat.dvd_add_right (Nat.dvd_mul_left _ _)).1 (hsum ▸ Nat.dvd_mul_left _ _)
  · rintro ⟨q, hq⟩
    refine ⟨value c.whole * c.scale + q, (hamount _).2 ?_⟩
    rw [hq]
    ring

/-- A whole amount is read exactly. -/
theorem nanos_eq_amount (h : c.IsWhole) : (c.nanos : ℚ) = c.amount := by
  have hpow : 0 < 10 ^ c.digits.length := Nat.pow_pos (by decide)
  have hdvd := c.isWhole_iff.1 h
  have htake : value c.cut * 10 ^ c.digits.length = value c.digits * 10 ^ c.cut.length :=
    value_take_mul_pow (length_stripZeros_le_of_dvd c.mem_units c.isDigit_digits hdvd)
  obtain ⟨q, hq⟩ := hdvd
  -- the part of a unit that the fraction stands for, and that its first digits stand for
  have hcut : value c.cut * c.scale = q * 10 ^ c.cut.length := by
    refine Nat.eq_of_mul_eq_mul_right hpow ?_
    calc value c.cut * c.scale * 10 ^ c.digits.length
        = value c.cut * 10 ^ c.digits.length * c.scale := by ring
      _ = value c.digits * 10 ^ c.cut.length * c.scale := by rw [htake]
      _ = value c.digits * c.scale * 10 ^ c.cut.length := by ring
      _ = q * 10 ^ c.cut.length * 10 ^ c.digits.length := by rw [hq]; ring
  have hnanos : c.nanos = value c.whole * c.scale + q := by
    rw [nanos, hcut, Nat.mul_div_cancel _ (Nat.pow_pos (by decide))]
  have hpart : (value c.digits : ℚ) * c.scale = 10 ^ c.digits.length * q := by exact_mod_cast hq
  have hne : (10 : ℚ) ^ c.digits.length ≠ 0 := pow_ne_zero _ (by norm_num)
  rw [hnanos, amount, add_mul, div_mul_eq_mul_div, hpart, mul_div_cancel_left₀ _ hne]
  push_cast
  rfl

/-- The sum of the amounts of a row. -/
def totalAmount (cs : List Component) : ℚ := (cs.map amount).sum

theorem total_eq_totalAmount {cs : List Component} (h : ∀ c ∈ cs, c.IsWhole) :
    (total cs : ℚ) = totalAmount cs := by
  induction cs with
  | nil => rfl
  | cons c cs ih =>
    rw [List.forall_mem_cons] at h
    have htotal : total (c :: cs) = c.nanos + total cs := rfl
    rw [htotal, Nat.cast_add, c.nanos_eq_amount h.1, ih h.2, totalAmount, totalAmount,
      List.map_cons, List.sum_cons]

end Component

/-! ### Texts -/

open Component

/-- The text is a row of components, each of a whole number of nanoseconds, with the sum of
their amounts; or a bare zero. -/
def Spells (input : String) (amount : ℚ) : Prop :=
  (trim input.toList = ['0'] ∧ amount = 0) ∨
    ∃ cs : List Component, cs ≠ [] ∧ trim input.toList = rowChars cs ∧ (∀ c ∈ cs, c.IsWhole) ∧
      amount = totalAmount cs

/-- What is read of a text of whole amounts is their sum. -/
theorem parse_eq_ok_iff_of_spells {input : String} {amount : ℚ} (h : Spells input amount)
    (d : Duration) : parse input = .ok d ↔ (d.nanos : ℚ) = amount := by
  rw [parse_eq_ok_iff]
  rcases h with ⟨hzero, rfl⟩ | ⟨cs, hne, hcs, hwhole, rfl⟩
  · rw [Nat.cast_eq_zero]
    constructor
    · rintro (⟨-, hd⟩ | ⟨cs, hne, hcs, -⟩)
      · exact hd
      · exact absurd (hcs.symm.trans hzero) (rowChars_ne_zero hne)
    · exact fun hd => .inl ⟨hzero, hd⟩
  · rw [← total_eq_totalAmount hwhole, Nat.cast_inj]
    constructor
    · rintro (⟨hzero, -⟩ | ⟨cs', -, hcs', htotal⟩)
      · exact absurd (hcs.symm.trans hzero) (rowChars_ne_zero hne)
      · rw [rowChars_injective (hcs.symm.trans hcs'), htotal]
    · exact fun htotal => .inr ⟨cs, hne, hcs, htotal.symm⟩

/-- A text of whole amounts that is read is read as their sum.  So two of them with one sum have
one canonical spelling and one normal text, in whatever units, order and spelling they are
written. -/
theorem exact_spellings :
    (∀ input amount, Spells input amount →
      ∀ d, parse input = .ok d ↔ (d.nanos : ℚ) = amount) ∧
    ∀ s t amount, Spells s amount → Spells t amount → ∀ d e, parse s = .ok d → parse t = .ok e →
      d = e ∧ canonicalize s = canonicalize t ∧ normalize s = normalize t := by
  refine ⟨fun _ _ => parse_eq_ok_iff_of_spells, ?_⟩
  intro s t amount hs ht d e hd he
  obtain rfl : d = e := by
    have hnanos := (parse_eq_ok_iff_of_spells hs d).1 hd
    rw [← (parse_eq_ok_iff_of_spells ht e).1 he] at hnanos
    exact Duration.ext (Nat.cast_injective hnanos)
  refine ⟨rfl, ?_, ?_⟩
  · rw [canonicalize_eq_ok_iff.2 ⟨d, hd, rfl⟩, canonicalize_eq_ok_iff.2 ⟨d, he, rfl⟩]
  · rw [normalize_of_length? (length?_of_parse hd), normalize_of_length? (length?_of_parse he)]

/-- What is written as `1.50m`. -/
def minuteAndHalf : Component where
  whole := ['1']
  fraction := some ['5', '0']
  unit := ['m']
  scale := 60000000000
  isDigit_whole := List.all_eq_true.1 rfl
  isDigit_fraction := by
    rintro _ ⟨⟩
    exact List.all_eq_true.1 rfl
  has_digit := .inl (by decide)
  mem_units := by decide

/-- What is written as `90s`. -/
def ninetySeconds : Component where
  whole := ['9', '0']
  fraction := none
  unit := ['s']
  scale := 1000000000
  isDigit_whole := List.all_eq_true.1 rfl
  isDigit_fraction := nofun
  has_digit := .inl (by decide)
  mem_units := by decide

theorem spells_component {c : Component} {input : String} {n : ℕ}
    (hinput : trim input.toList = c.chars) (hamount : c.amount = n) : Spells input n := by
  refine .inr ⟨[c], List.cons_ne_nil _ _, ?_, ?_, ?_⟩
  · rw [hinput, rowChars, List.flatMap_singleton]
  · rw [List.forall_mem_singleton]
    exact ⟨n, hamount⟩
  · rw [totalAmount, List.map_singleton, List.sum_singleton, hamount]

theorem exact_spellings_minute :
    Spells "1.50m" (90000000000 : ℕ) ∧ Spells "90s" (90000000000 : ℕ) ∧
      canonicalize "1.50m" = canonicalize "90s" ∧ normalize "1.50m" = normalize "90s" := by
  have hminutes : Spells "1.50m" (90000000000 : ℕ) := by
    have hwhole : value minuteAndHalf.whole = 1 := rfl
    have hdigits : value minuteAndHalf.digits = 50 := rfl
    have hlength : minuteAndHalf.digits.length = 2 := rfl
    refine spells_component (by decide +kernel : _ = minuteAndHalf.chars) ?_
    rw [amount, hwhole, hdigits, hlength]
    norm_num [minuteAndHalf]
  have hseconds : Spells "90s" (90000000000 : ℕ) := by
    have hwhole : value ninetySeconds.whole = 90 := rfl
    have hdigits : value ninetySeconds.digits = 0 := rfl
    refine spells_component (by decide +kernel : _ = ninetySeconds.chars) ?_
    rw [amount, hwhole, hdigits]
    norm_num [ninetySeconds]
  obtain ⟨hread, hsame⟩ := exact_spellings
  let d : Duration := ⟨90000000000, by decide⟩
  have hd : parse "1.50m" = .ok d := (hread _ _ hminutes d).2 rfl
  have he : parse "90s" = .ok d := (hread _ _ hseconds d).2 rfl
  exact ⟨hminutes, hseconds, (hsame _ _ _ hminutes hseconds d d hd he).2⟩

end AlertRules.Duration
