/-
AlertRules/Proofs/Duration/Truncation.lean

How fractions are truncated.  Of the amount of a component (`Component.amount`) the reader takes
the part that the first eighteen digits of the fraction make up (`Component.kept`), and of that
the whole nanoseconds.  The other digits are worth less than a nanosecond in every unit
(`Component.lost_lt_one`), but together with what is left of a nanosecond they can complete one:
the number then carries (`Component.Carries`), and what is read is one nanosecond less than the
whole nanoseconds of the amount.  Otherwise it is just these.

A number carries only if it has more than eighteen digits behind the point and its unit is
longer than a second (`Component.Carries.of_long`).  The shorter units divide the eighteenth
power of ten, so what is left of a nanosecond is too short by a whole step of the eighteenth
digit at least.  In every longer unit there are such numbers (`exists_lost`).
-/
import Mathlib.Data.Rat.Floor
import Mathlib.Tactic.Linarith
import Mathlib.Tactic.NormNum
import Mathlib.Tactic.Positivity
import AlertRules.Proofs.Duration.Exact

namespace AlertRules.Duration

open Text Text.Decimal

namespace Component

variable (c : Component)

/-! ### Kept and lost -/

/-- The digits behind the eighteenth place. -/
def cutOff : List Char := c.digits.drop 18

/-- The amount without the digits that are cut off. -/
def kept : ℚ := (value c.whole + value c.cut / 10 ^ c.cut.length) * c.scale

/-- What the digits that are cut off are worth. -/
def lost : ℚ := value c.cutOff / 10 ^ c.digits.length * c.scale

theorem cut_append_cutOff : c.cut ++ c.cutOff = c.digits := List.take_append_drop 18 c.digits

theorem value_cut_cutOff :
    value c.digits = value c.cut * 10 ^ c.cutOff.length + value c.cutOff := by
  rw [← value_append, cut_append_cutOff]

theorem value_cutOff_lt : value c.cutOff < 10 ^ c.cutOff.length :=
  value_lt fun a ha => c.isDigit_digits a (List.mem_of_mem_drop ha)

theorem amount_eq : c.amount = c.kept + c.lost := by
  have hlength : c.digits.length = c.cut.length + c.cutOff.length := by
    rw [← List.length_append, cut_append_cutOff]
  rw [amount, kept, lost, value_cut_cutOff, hlength]
  push_cast
  field_simp
  ring

/-- What is read are the whole nanoseconds of what is kept. -/
theorem nanos_eq_floor : (c.nanos : ℤ) = ⌊c.kept⌋ := by
  have hkept : c.kept = (value c.whole * c.scale : ℕ) +
      ((value c.cut * c.scale : ℕ) : ℚ) / (10 ^ c.cut.length : ℕ) := by
    rw [kept]
    push_cast
    ring
  rw [hkept, Int.floor_natCast_add, Rat.floor_natCast_div_natCast, nanos]
  push_cast
  rfl

theorem lost_nonneg : 0 ≤ c.lost := by
  unfold lost
  positivity

theorem lost_eq_zero (h : c.digits.length ≤ 18) : c.lost = 0 := by
  have hnil : value c.cutOff = 0 := by
    rw [cutOff, List.drop_eq_nil_of_le h]
    rfl
  rw [lost, hnil, Nat.cast_zero, zero_div, zero_mul]

/-- The digits that are cut off are worth less than a step of the last digit that is kept. -/
theorem lost_lt : c.lost < c.scale / 10 ^ 18 := by
  have hscale : (0 : ℚ) < c.scale := by exact_mod_cast c.scale_pos
  rcases Nat.le_total c.digits.length 18 with hshort | hlong
  · rw [c.lost_eq_zero hshort]
    positivity
  have hlength : c.digits.length = 18 + c.cutOff.length := by
    rw [cutOff, List.length_drop]
    omega
  have hvalue : (value c.cutOff : ℚ) < 10 ^ c.cutOff.length := by exact_mod_cast c.value_cutOff_lt
  have hpart : (value c.cutOff : ℚ) / 10 ^ c.digits.length < 1 / 10 ^ 18 := by
    rw [hlength, pow_add, div_lt_div_iff₀ (by positivity) (by positivity)]
    linarith
  calc c.lost < 1 / 10 ^ 18 * c.scale := mul_lt_mul_of_pos_right hpart hscale
    _ = c.scale / 10 ^ 18 := by ring

theorem lost_lt_one : c.lost < 1 := by
  have hscale : (c.scale : ℚ) ≤ 31536000000000000 := by
    exact_mod_cast (scale_bounds _ c.mem_units).2
  calc c.lost < c.scale / 10 ^ 18 := c.lost_lt
    _ ≤ 31536000000000000 / 10 ^ 18 := by gcongr
    _ ≤ 1 := by norm_num

/-! ### Carries -/

/-- What is left of a nanosecond and what is cut off make up another one. -/
def Carries : Prop := 1 ≤ Int.fract c.kept + c.lost

variable {c}

theorem floor_amount_of_not_carries (h : ¬ c.Carries) : ⌊c.amount⌋ = c.nanos := by
  have hsum := Int.floor_add_fract c.kept
  have hfract := Int.fract_nonneg c.kept
  have hlost := c.lost_nonneg
  rw [Carries, not_le] at h
  rw [c.nanos_eq_floor, Int.floor_eq_iff, c.amount_eq]
  constructor <;> linarith

theorem floor_amount_of_carries (h : c.Carries) : ⌊c.amount⌋ = c.nanos + 1 := by
  have hsum := Int.floor_add_fract c.kept
  have hfract := Int.fract_lt_one c.kept
  have hlost := c.lost_lt_one
  rw [Carries] at h
  rw [c.nanos_eq_floor, Int.floor_eq_iff, c.amount_eq]
  push_cast
  constructor <;> linarith

/-- A fraction of up to eighteen digits is kept as a whole. -/
theorem Carries.lt_length (h : c.Carries) : 18 < c.digits.length := by
  by_contra hle
  rw [Carries, c.lost_eq_zero (by omega), add_zero] at h
  exact absurd h (not_le.2 (Int.fract_lt_one _))

/-- Where the unit is made up of a whole number of steps of the eighteenth digit, what is left of
a nanosecond is so too, and less than one step is cut off. -/
theorem not_carries_of_dvd (h : c.scale ∣ 10 ^ 18) : ¬ c.Carries := by
  intro hcarries
  have hlength : c.cut.length = 18 :=
    List.length_take_of_le (Nat.le_of_lt hcarries.lt_length)
  obtain ⟨steps, hsteps⟩ := h
  have hscale : (0 : ℚ) < c.scale := by exact_mod_cast c.scale_pos
  have hpow : (10 : ℚ) ^ 18 = c.scale * steps := by exact_mod_cast hsteps
  have hpos : (0 : ℚ) < steps := pos_of_mul_pos_right (hpow ▸ by positivity) hscale.le
  have hstep : (c.scale : ℚ) / 10 ^ 18 = 1 / steps := by
    rw [hpow]
    field_simp
  have hkept : c.kept = (value c.whole * c.scale : ℕ) + (value c.cut : ℚ) / steps := by
    rw [kept, hlength, hpow]
    push_cast
    field_simp
  have hlost := c.lost_lt
  rw [hstep] at hlost
  have hfract : Int.fract c.kept ≤ (steps - 1) / steps := by
    have hmod : value c.cut % steps + 1 ≤ steps := Nat.mod_lt _ (by exact_mod_cast hpos)
    have hmod' : ((value c.cut % steps : ℕ) : ℚ) + 1 ≤ steps := by exact_mod_cast hmod
    rw [hkept, Int.fract_natCast_add, Int.fract_div_natCast_eq_div_natCast_mod]
    gcongr
    linarith
  have hone : ((steps : ℚ) - 1) / steps + 1 / steps = 1 := by
    field_simp
    ring
  rw [Carries] at hcarries
  linarith

/-- A number that carries is of a unit longer than a second. -/
theorem Carries.lt_scale (h : c.Carries) : nanosPerSecond < c.scale := by
  have hunits : ∀ u ∈ units, u.2 ≤ nanosPerSecond → u.2 ∣ 10 ^ 18 := by decide
  by_contra hle
  exact not_carries_of_dvd (hunits _ c.mem_units (Nat.le_of_not_lt hle)) h

end Component

/-! ### Numbers that carry -/

open Component

theorem rowChars_singleton (c : Component) : rowChars [c] = c.chars := List.flatMap_singleton _ _

section OverNanosecond

variable {unit : List Char} {scale : ℕ}

/-- A little more than the part of a unit that is a nanosecond, in forty places. -/
def overNanosecond (h : (unit, scale) ∈ units) : Component where
  whole := []
  fraction := some (padded 40 (10 ^ 40 / scale + 1))
  unit := unit
  scale := scale
  isDigit_whole := List.forall_mem_nil _
  isDigit_fraction := by
    rintro _ ⟨⟩
    exact all_isDigit_padded _ _
  has_digit := .inr ⟨_, rfl, List.append_ne_nil_of_right_ne_nil _ (digits_ne_nil _)⟩
  mem_units := h

/-- In forty places there is room for a little more than a nanosecond of any such unit, and the
first eighteen of them are not enough for one. -/
theorem overNanosecond_bounds : ∀ u ∈ units, nanosPerSecond < u.2 →
    10 ^ 40 / u.2 + 1 < 10 ^ 40 ∧ 10 ^ 40 ≤ (10 ^ 40 / u.2 + 1) * u.2 ∧
      (10 ^ 40 / u.2 + 1) / 10 ^ 22 * u.2 < 10 ^ 18 := by
  decide

variable (h : (unit, scale) ∈ units) (hlong : nanosPerSecond < scale)

theorem value_overNanosecond : value (overNanosecond h).digits = 10 ^ 40 / scale + 1 :=
  value_padded 40 _

include h hlong

theorem length_overNanosecond : (overNanosecond h).digits.length = 40 :=
  length_padded (by decide) (overNanosecond_bounds _ h hlong).1

theorem one_le_amount_overNanosecond : 1 ≤ (overNanosecond h).amount := by
  have hmore : (10 : ℚ) ^ 40 ≤ ((10 ^ 40 / scale + 1 : ℕ) : ℚ) * scale := by
    exact_mod_cast (overNanosecond_bounds _ h hlong).2.1
  have hwhole : value (overNanosecond h).whole = 0 := rfl
  have hscale : (overNanosecond h).scale = scale := rfl
  rw [amount, hwhole, value_overNanosecond, length_overNanosecond h hlong, hscale, Nat.cast_zero,
    zero_add, div_mul_eq_mul_div, le_div_iff₀ (by positivity), one_mul]
  exact hmore

theorem nanos_overNanosecond : (overNanosecond h).nanos = 0 := by
  have hlength := length_overNanosecond h hlong
  have hcut : value (overNanosecond h).cut = (10 ^ 40 / scale + 1) / 10 ^ 22 := by
    have hoff : (overNanosecond h).cutOff.length = 22 := by rw [cutOff, List.length_drop, hlength]
    have hsmall : value (overNanosecond h).cutOff < 10 ^ 22 := hoff ▸ value_cutOff_lt _
    rw [← value_overNanosecond h, value_cut_cutOff, hoff]
    omega
  have hlengthCut : (overNanosecond h).cut.length = 18 :=
    List.length_take_of_le (hlength ▸ by decide : 18 ≤ (overNanosecond h).digits.length)
  have hwhole : value (overNanosecond h).whole * (overNanosecond h).scale = 0 := Nat.zero_mul _
  rw [Component.nanos, hwhole, hcut, hlengthCut, Nat.zero_add]
  exact Nat.div_eq_of_lt (overNanosecond_bounds _ h hlong).2.2

/-- In every unit longer than a second there is an amount of a nanosecond and more that is read
as no time at all. -/
theorem exists_lost : ∃ c : Component, c.unit = unit ∧ 1 ≤ c.amount ∧
    parse (String.ofList c.chars) = .ok zero := by
  refine ⟨overNanosecond h, rfl, one_le_amount_overNanosecond h hlong, ?_⟩
  rw [← rowChars_singleton, parse_rowChars_eq_ok_iff]
  exact ⟨List.cons_ne_nil _ _, nanos_overNanosecond h hlong⟩

end OverNanosecond

/-! ### Single components -/

/-- What is read of a single component is its length, with nothing added. -/
theorem nanos_of_parse_component {c : Component} {input : String} {d : Duration}
    (hinput : trim input.toList = c.chars) (h : parse input = .ok d) : d.nanos = c.nanos := by
  rw [← rowChars_singleton] at hinput
  rcases parse_eq_ok_iff.1 h with ⟨hzero, -⟩ | ⟨cs, -, hcs, htotal⟩
  · exact absurd (hinput.symm.trans hzero) (rowChars_ne_zero (List.cons_ne_nil _ _))
  · obtain rfl : [c] = cs := rowChars_injective (hinput.symm.trans hcs)
    exact htotal.symm

/-- A single component that is read has the whole nanoseconds of its amount, unless the digits
behind the eighteenth complete one, which is then lost.  That takes a number with more digits, of
a unit longer than a second; and in each such unit a nanosecond can be lost. -/
theorem parse_truncates {c : Component} {input : String} {d : Duration}
    (hinput : trim input.toList = c.chars) (h : parse input = .ok d) :
    ((d.nanos : ℤ) = ⌊c.amount⌋ ↔ ¬ c.Carries) ∧
      (c.Carries → (d.nanos : ℤ) + 1 = ⌊c.amount⌋) ∧
      (c.Carries → 18 < c.digits.length ∧ nanosPerSecond < c.scale) ∧
      (nanosPerSecond < c.scale → ∃ c' : Component, c'.unit = c.unit ∧ 1 ≤ c'.amount ∧
        parse (String.ofList c'.chars) = .ok zero) := by
  rw [nanos_of_parse_component hinput h]
  refine ⟨⟨fun hfloor hcarries => ?_, fun hnot => (floor_amount_of_not_carries hnot).symm⟩,
    fun hcarries => (floor_amount_of_carries hcarries).symm,
    fun hcarries => ⟨hcarries.lt_length, hcarries.lt_scale⟩,
    fun hlong => exists_lost c.mem_units hlong⟩
  have hone := floor_amount_of_carries hcarries
  omega

/-- What is written as `0.0000000000002777777778h`. -/
def overNanosecondHour : Component where
  whole := ['0']
  fraction := some (List.replicate 12 '0' ++ ['2', '7', '7', '7', '7', '7', '7', '7', '7', '8'])
  unit := ['h']
  scale := 3600000000000
  isDigit_whole := List.all_eq_true.1 rfl
  isDigit_fraction := by
    rintro _ ⟨⟩
    exact List.all_eq_true.1 rfl
  has_digit := .inl (by decide)
  mem_units := by decide

theorem amount_overNanosecondHour : overNanosecondHour.amount = 100000000008 / 100000000000 := by
  have hwhole : value overNanosecondHour.whole = 0 := rfl
  have hdigits : value overNanosecondHour.digits = 2777777778 := rfl
  have hlength : overNanosecondHour.digits.length = 22 := rfl
  rw [amount, hwhole, hdigits, hlength]
  norm_num [overNanosecondHour]

theorem chars_overNanosecondHour :
    trim "0.0000000000002777777778h".toList = overNanosecondHour.chars := by
  decide +kernel

theorem parse_overNanosecondHour : parse "0.0000000000002777777778h" = .ok zero := by
  decide +kernel

/-- A little more than a nanosecond, in hours, is read as no time; a minute and a half is read as
it is. -/
theorem parse_truncates_hour :
    trim "0.0000000000002777777778h".toList = overNanosecondHour.chars ∧
      parse "0.0000000000002777777778h" = .ok zero ∧ overNanosecondHour.Carries ∧
      ⌊overNanosecondHour.amount⌋ = 1 ∧ ¬ minuteAndHalf.Carries ∧
      (parse "1.50m").map nanos = .ok 90000000000 ∧ ⌊minuteAndHalf.amount⌋ = 90000000000 ∧
      ∃ c : Component, c.unit = ['h'] ∧ 1 ≤ c.amount ∧ parse (String.ofList c.chars) = .ok zero := by
  let d : Duration := ⟨90000000000, by decide⟩
  have hminutes : trim "1.50m".toList = minuteAndHalf.chars := by decide +kernel
  have hparseMinutes : parse "1.50m" = .ok d := by decide +kernel
  obtain ⟨hmeets, hcarries, -, hunit⟩ :=
    parse_truncates chars_overNanosecondHour parse_overNanosecondHour
  obtain ⟨hmeetsMinutes, -, hlong, -⟩ := parse_truncates hminutes hparseMinutes
  have hfloor : ⌊overNanosecondHour.amount⌋ = 1 := by
    rw [amount_overNanosecondHour]
    norm_num
  have hdoes : overNanosecondHour.Carries := by
    by_contra h
    exact absurd ((hmeets.2 h).trans hfloor) (by decide)
  have hdoesNot : ¬ minuteAndHalf.Carries := fun h => absurd (hlong h).1 (by decide)
  refine ⟨chars_overNanosecondHour, parse_overNanosecondHour, hdoes, (hcarries hdoes).symm,
    hdoesNot, ?_, (hmeetsMinutes.2 hdoesNot).symm, hunit (by decide)⟩
  rw [hparseMinutes]
  rfl

/-- The digits that are cut off can make a difference. -/
theorem not_always_floor :
    ¬ ∀ (c : Component) (input : String) (d : Duration), trim input.toList = c.chars →
      parse input = .ok d → (d.nanos : ℤ) = ⌊c.amount⌋ := by
  intro h
  have hzero := h _ _ _ chars_overNanosecondHour parse_overNanosecondHour
  rw [amount_overNanosecondHour] at hzero
  norm_num [zero] at hzero

end AlertRules.Duration
