/-
AlertRules/Proofs/Duration/Reading.lean

Reading undoes writing: the canonical spelling of a duration is read as that
duration (`parse_render`), so no two durations have one spelling
(`render_injective`).

A spelling is a row of components, each a number and a unit.  `sum_component` says
what reading one component does to the total in front of the rest; the five forms of
a spelling are then rows of one to three components.  Every bound that a reader
checks on the way follows from one fact, that the whole length is below `nanosBound`.
-/
import AlertRules.Proofs.Text.Decimal
import AlertRules.Proofs.Text.Trim
import AlertRules.Duration

namespace AlertRules.Duration

open Text

/-! ### Characters -/

theorem isNumberChar_of_isDigit {c : Char} (h : c.isDigit = true) : isNumberChar c = true := by
  simp [isNumberChar, h]

theorem isNumberChar_digits (n : Nat) : ∀ c ∈ Decimal.digits n, isNumberChar c = true :=
  fun c hc => isNumberChar_of_isDigit (List.all_eq_true.1 (Decimal.all_isDigit_digits n) c hc)

theorem ne_dot_of_isDigit {c : Char} (h : c.isDigit = true) : c ≠ '.' := by
  rintro rfl
  exact absurd h (by decide)

/-- No character of a number is white space. -/
theorem isBlank_of_isNumberChar {c : Char} (h : isNumberChar c = true) : isBlank c = false := by
  have hrange : (48 ≤ c.toNat ∧ c.toNat ≤ 57) ∨ c.toNat = 46 := by
    simp only [isNumberChar, Bool.or_eq_true, beq_iff_eq, Char.isDigit, Bool.and_eq_true,
      decide_eq_true_eq] at h
    rcases h with h | rfl
    · exact .inl h
    · exact .inr rfl
  simp only [isBlank, Bool.or_eq_false_iff, Bool.and_eq_false_iff, beq_eq_false_iff_ne,
    decide_eq_false_iff_not]
  omega

/-! ### Runs of characters -/

section Runs

variable {p : Char → Bool} {as bs : List Char}

/-- A run of characters of one kind ends where a character of another kind follows. -/
theorem takeWhile_run (has : ∀ c ∈ as, p c = true) (hbs : ∀ c ∈ bs.head?, p c = false) :
    (as ++ bs).takeWhile p = as := by
  rw [List.takeWhile_append_of_pos has]
  cases bs with
  | nil => simp
  | cons b _ => simp [hbs b rfl]

theorem dropWhile_run (has : ∀ c ∈ as, p c = true) (hbs : ∀ c ∈ bs.head?, p c = false) :
    (as ++ bs).dropWhile p = bs := by
  rw [List.dropWhile_append_of_pos has]
  cases bs with
  | nil => rfl
  | cons b _ => simp [hbs b rfl]

end Runs

/-- A text that starts with a number starts with a character of one. -/
theorem isNumberChar_head? {number : List Char} (hne : number ≠ [])
    (hnumber : ∀ c ∈ number, isNumberChar c = true) (rest : List Char) :
    ∀ c ∈ (number ++ rest).head?, isNumberChar c = true := by
  obtain ⟨a, as, rfl⟩ := List.exists_cons_of_ne_nil hne
  intro c hc
  rw [List.cons_append, List.head?_cons, Option.mem_some] at hc
  exact hc ▸ hnumber a List.mem_cons_self

/-! ### Numbers -/

theorem checked_eq_some {n : Nat} (h : n < wordBound) : checked n = some n := by
  simp [checked, h]

theorem isEmpty_digits (n : Nat) : (Decimal.digits n).isEmpty = false := by
  simp [Decimal.digits_ne_nil]

theorem ne_dot_of_mem_digits (n : Nat) : ∀ c ∈ Decimal.digits n, decide (c ≠ '.') = true := by
  intro c hc
  have hdigit : c.isDigit = true := List.all_eq_true.1 (Decimal.all_isDigit_digits n) c hc
  exact decide_eq_true (ne_dot_of_isDigit hdigit)

/-- A run of digits counts whole units. -/
theorem scaled?_digits {n scale : Nat} (hn : n < wordBound) (h : n * scale < wordBound) :
    scaled? (Decimal.digits n) scale = some (n * scale) := by
  have hwhole : (Decimal.digits n ++ []).takeWhile (· ≠ '.') = Decimal.digits n :=
    takeWhile_run (ne_dot_of_mem_digits n) nofun
  have hrest : (Decimal.digits n ++ []).dropWhile (· ≠ '.') = [] :=
    dropWhile_run (ne_dot_of_mem_digits n) nofun
  rw [List.append_nil] at hwhole hrest
  have hnone : Decimal.value [] = 0 := rfl
  simp only [scaled?, hwhole, hrest, isEmpty_digits]
  simp [Decimal.value_digits, checked_eq_some hn, checked_eq_some h, hnone]

/-- A number with a fraction of at most eighteen digits counts whole units and the part
of one that the fraction stands for. -/
theorem scaled?_fraction (n scale : Nat) {fraction : List Char} (hn : n < wordBound)
    (hfraction : ∀ c ∈ fraction, c.isDigit = true) (hlength : fraction.length ≤ 18)
    (h : n * scale + Decimal.value fraction * scale / 10 ^ fraction.length < wordBound) :
    scaled? (Decimal.digits n ++ '.' :: fraction) scale =
      some (n * scale + Decimal.value fraction * scale / 10 ^ fraction.length) := by
  have hpoint : ∀ c ∈ ('.' :: fraction).head?, decide (c ≠ '.') = false := by
    rintro c ⟨⟩
    rfl
  have hwhole : (Decimal.digits n ++ '.' :: fraction).takeWhile (· ≠ '.') = Decimal.digits n :=
    takeWhile_run (ne_dot_of_mem_digits n) hpoint
  have hrest : (Decimal.digits n ++ '.' :: fraction).dropWhile (· ≠ '.') = '.' :: fraction :=
    dropWhile_run (ne_dot_of_mem_digits n) hpoint
  have hdot : fraction.contains '.' = false := by
    rw [← Bool.not_eq_true, List.contains_iff_mem]
    exact fun hmem => ne_dot_of_isDigit (hfraction _ hmem) rfl
  have hbase : n * scale < wordBound := Nat.lt_of_le_of_lt (Nat.le_add_right _ _) h
  simp only [scaled?, hwhole, hrest, isEmpty_digits, List.drop_succ_cons, List.drop_zero, hdot]
  simp [Decimal.value_digits, checked_eq_some hn, checked_eq_some hbase,
    List.take_of_length_le hlength, checked_eq_some h]

theorem fixedPoint_eq (value places : Nat) : fixedPoint value places =
    if value % 10 ^ places = 0 then Decimal.digits (value / 10 ^ places)
    else Decimal.digits (value / 10 ^ places) ++
      '.' :: Decimal.stripZeros (Decimal.padded places (value % 10 ^ places)) := rfl

theorem fixedPoint_zero (places : Nat) : fixedPoint 0 places = ['0'] := by
  rw [fixedPoint_eq, if_pos (Nat.zero_mod _), Nat.zero_div, Decimal.digits]
  rfl

/-- A fixed-point number of `places` places, in a unit of `10 ^ places` nanoseconds, is
read as the value that it was written for. -/
theorem scaled?_fixedPoint {value places : Nat} (hplaces : places ≤ 18)
    (h : value < wordBound) : scaled? (fixedPoint value places) (10 ^ places) = some value := by
  have hpos : 0 < 10 ^ places := Nat.pow_pos (by decide)
  have hwhole : value / 10 ^ places < wordBound := Nat.lt_of_le_of_lt (Nat.div_le_self _ _) h
  have hsplit : value / 10 ^ places * 10 ^ places + value % 10 ^ places = value := by
    rw [Nat.mul_comm]
    exact Nat.div_add_mod _ _
  rw [fixedPoint_eq]
  by_cases hzero : value % 10 ^ places = 0
  · rw [if_pos hzero, scaled?_digits hwhole (by omega)]
    exact congrArg some (by omega)
  · rw [if_neg hzero]
    -- there is a fraction, so there are places for it
    have hp : 0 < places := by
      rcases Nat.eq_zero_or_pos places with rfl | hp
      · simp [Nat.mod_one] at hzero
      · exact hp
    have hmod : value % 10 ^ places < 10 ^ places := Nat.mod_lt value hpos
    have hpart := Decimal.value_fraction hp hmod
    have hshort : (Decimal.stripZeros (Decimal.padded places (value % 10 ^ places))).length ≤
        18 := by
      have hle := Decimal.length_stripZeros_le (Decimal.padded places (value % 10 ^ places))
      rw [Decimal.length_padded hp hmod] at hle
      exact Nat.le_trans hle hplaces
    have hread := scaled?_fraction (value / 10 ^ places) (10 ^ places) hwhole
      (fun c hc => Decimal.all_isDigit_padded _ _ c (Decimal.stripZeros_subset _ c hc)) hshort
      (by rw [hpart, hsplit]; exact h)
    rw [hpart, hsplit] at hread
    exact hread

theorem isNumberChar_fixedPoint (value places : Nat) :
    ∀ c ∈ fixedPoint value places, isNumberChar c = true := by
  intro c hc
  rw [fixedPoint_eq] at hc
  split at hc
  · exact isNumberChar_digits _ c hc
  · rcases List.mem_append.1 hc with hc | hc
    · exact isNumberChar_digits _ c hc
    · rcases List.mem_cons.1 hc with rfl | hc
      · rfl
      · have := Decimal.stripZeros_subset _ c hc
        exact isNumberChar_of_isDigit (Decimal.all_isDigit_padded _ _ c this)

theorem fixedPoint_ne_nil (value places : Nat) : fixedPoint value places ≠ [] := by
  rw [fixedPoint_eq]
  split <;> simp [Decimal.digits_ne_nil]

/-! ### Components -/

/-- A unit has no character of a number where none of its letters is one. -/
theorem not_isNumberChar {unit : List Char}
    (h : (unit.all fun c => !isNumberChar c) = true) : ∀ c ∈ unit, isNumberChar c = false := by
  intro c hc
  have hall := List.all_eq_true.1 h c hc
  rwa [Bool.not_eq_true'] at hall

/-- Reading one component adds it to the total, whatever follows. -/
theorem sum_component {number unit rest : List Char} {total scale n : Nat}
    (hne : number ≠ []) (hnumber : ∀ c ∈ number, isNumberChar c = true)
    (hunit : ∀ c ∈ unit, isNumberChar c = false)
    (hrest : ∀ c ∈ rest.head?, isNumberChar c = true) (hscale : unitNanos? unit = some scale)
    (hn : scaled? number scale = some n) (hlt : total + n < wordBound) :
    sum (number ++ unit ++ rest) total = sum rest (total + n) := by
  obtain ⟨c, r, rfl⟩ := List.exists_cons_of_ne_nil hne
  rw [List.forall_mem_cons] at hnumber
  obtain ⟨u, us, rfl⟩ : ∃ u us, unit = u :: us := by
    cases unit with
    | nil => simp [unitNanos?] at hscale
    | cons u us => exact ⟨u, us, rfl⟩
  -- the number ends at the first letter of the unit, the unit where the next number starts
  have hletter : ∀ a ∈ (u :: us ++ rest).head?, isNumberChar a = false := by
    rintro a ⟨⟩
    exact hunit u List.mem_cons_self
  have hletters : ∀ a ∈ u :: us, (!isNumberChar a) = true := fun a ha => by simp [hunit a ha]
  have hnext : ∀ a ∈ rest.head?, (!isNumberChar a) = false := fun a ha => by simp [hrest a ha]
  have htake := takeWhile_run hnumber.2 hletter
  have hdrop := dropWhile_run hnumber.2 hletter
  have htakeUnit := takeWhile_run hletters hnext
  have hdropUnit := dropWhile_run hletters hnext
  rw [List.append_assoc, List.cons_append, sum, if_pos hnumber.1]
  simp only [htake, hdrop, htakeUnit, hdropUnit, List.isEmpty_cons, hscale, hn,
    checked_eq_some hlt]
  rfl

/-- A component that is left out where its number is zero. -/
theorem sum_optional {p : Prop} [Decidable p] {unit rest : List Char} {total scale n : Nat}
    (hp : ¬ p → n = 0) (hunit : ∀ c ∈ unit, isNumberChar c = false)
    (hrest : ∀ c ∈ rest.head?, isNumberChar c = true) (hscale : unitNanos? unit = some scale)
    (hn : n < wordBound) (hlt : total + n * scale < wordBound) :
    sum ((if p then Decimal.digits n ++ unit else []) ++ rest) total =
      sum rest (total + n * scale) := by
  by_cases h : p
  · rw [if_pos h]
    exact sum_component (Decimal.digits_ne_nil n) (isNumberChar_digits n) hunit hrest hscale
      (scaled?_digits hn (by omega)) hlt
  · rw [if_neg h, hp h]
    simp

/-- A fixed-point number at the end of a text. -/
theorem sum_fixedPoint {value places total : Nat} {unit : List Char} (hplaces : places ≤ 18)
    (hunit : ∀ c ∈ unit, isNumberChar c = false)
    (hscale : unitNanos? unit = some (10 ^ places)) (hlt : total + value < wordBound) :
    sum (fixedPoint value places ++ unit) total = .ok (total + value) := by
  have hvalue : value < wordBound := Nat.lt_of_le_of_lt (Nat.le_add_left _ _) hlt
  have h : sum (fixedPoint value places ++ unit ++ []) total = sum [] (total + value) :=
    sum_component (fixedPoint_ne_nil value places) (isNumberChar_fixedPoint value places) hunit
      (by simp) hscale (scaled?_fixedPoint hplaces hvalue) hlt
  rw [List.append_nil] at h
  rw [h, sum]

/-! ### Spellings -/

theorem nanosBound_le_wordBound : nanosBound ≤ wordBound := by decide

/-- From a second on, hours, minutes and seconds make up the whole. -/
theorem parts_eq (d : Duration) : d.seconds / 3600 * (3600 * nanosPerSecond) +
    d.seconds % 3600 / 60 * (60 * nanosPerSecond) +
    (d.seconds % 60 * nanosPerSecond + d.subsecNanos) = d.nanos := by
  unfold seconds subsecNanos nanosPerSecond
  omega

/-- Hours, minutes and seconds in a row, the first two left out where they are zero. -/
theorem sum_clock {hours minutes nanos : Nat}
    (h : hours * (3600 * nanosPerSecond) + minutes * (60 * nanosPerSecond) + nanos <
      wordBound) :
    sum ((if 0 < hours then Decimal.digits hours ++ ['h'] else []) ++
      ((if 0 < hours ∨ 0 < minutes then Decimal.digits minutes ++ ['m'] else []) ++
        (fixedPoint nanos 9 ++ ['s']))) 0 =
      .ok (hours * (3600 * nanosPerSecond) + minutes * (60 * nanosPerSecond) + nanos) := by
  have hhours : hours ≤ hours * (3600 * nanosPerSecond) := Nat.le_mul_of_pos_right _ (by decide)
  have hminutes : minutes ≤ minutes * (60 * nanosPerSecond) :=
    Nat.le_mul_of_pos_right _ (by decide)
  have hlast : ∀ c ∈ (fixedPoint nanos 9 ++ ['s']).head?, isNumberChar c = true :=
    isNumberChar_head? (fixedPoint_ne_nil nanos 9) (isNumberChar_fixedPoint nanos 9) _
  have hmiddle : ∀ c ∈ ((if 0 < hours ∨ 0 < minutes then Decimal.digits minutes ++ ['m']
      else []) ++ (fixedPoint nanos 9 ++ ['s'])).head?, isNumberChar c = true := by
    split
    · rw [List.append_assoc]
      exact isNumberChar_head? (Decimal.digits_ne_nil minutes) (isNumberChar_digits minutes) _
    · exact hlast
  rw [sum_optional (by omega) (not_isNumberChar rfl) hmiddle rfl (by omega) (by omega),
    sum_optional (by omega) (not_isNumberChar rfl) hlast rfl (by omega) (by omega),
    sum_fixedPoint (by decide) (not_isNumberChar rfl) rfl (by omega), Nat.zero_add]

theorem nanos_lt_wordBound (d : Duration) : d.nanos < wordBound :=
  Nat.lt_of_lt_of_le d.nanos_lt nanosBound_le_wordBound

/-- A duration in a single component. -/
theorem sum_sole (d : Duration) {places : Nat} {unit : List Char} (hplaces : places ≤ 18)
    (hunit : ∀ c ∈ unit, isNumberChar c = false) (hscale : unitNanos? unit = some (10 ^ places)) :
    sum (fixedPoint d.nanos places ++ unit) 0 = .ok d.nanos := by
  have hlt : 0 + d.nanos < wordBound := by
    rw [Nat.zero_add]
    exact d.nanos_lt_wordBound
  rw [sum_fixedPoint hplaces hunit hscale hlt, Nat.zero_add]

theorem sum_spelling (d : Duration) : sum d.spelling 0 = .ok d.nanos := by
  unfold spelling
  simp only
  by_cases hzero : d.nanos = 0
  · -- `0s` is what a fixed-point zero in seconds would be
    have hzeros : sum (fixedPoint d.nanos 9 ++ ['s']) 0 = .ok d.nanos :=
      d.sum_sole (by decide) (not_isNumberChar rfl) rfl
    rw [hzero, fixedPoint_zero] at hzeros
    rw [if_pos hzero, hzero]
    exact hzeros
  rw [if_neg hzero]
  by_cases hnano : d.nanos < 1000
  · rw [if_pos hnano]
    exact d.sum_sole (by decide) (not_isNumberChar rfl) rfl
  rw [if_neg hnano]
  by_cases hmicro : d.nanos < 1000000
  · rw [if_pos hmicro]
    exact d.sum_sole (by decide) (not_isNumberChar rfl) rfl
  rw [if_neg hmicro]
  by_cases hmilli : d.nanos < nanosPerSecond
  · rw [if_pos hmilli]
    exact d.sum_sole (by decide) (not_isNumberChar rfl) rfl
  -- from a second on, the parts add up to the whole
  rw [if_neg hmilli, List.append_assoc, List.append_assoc,
    sum_clock (by rw [parts_eq]; exact d.nanos_lt_wordBound), parts_eq]

/-- A spelling starts with a character of a number and ends in the letter of seconds. -/
theorem spelling_shape (d : Duration) : ∃ cs, d.spelling = cs ++ ['s'] ∧ cs ≠ [] ∧
    ∀ c ∈ cs.head?, isNumberChar c = true := by
  have hnumber : ∀ places more, fixedPoint d.nanos places ++ more ≠ [] ∧
      ∀ c ∈ (fixedPoint d.nanos places ++ more).head?, isNumberChar c = true :=
    fun places more => ⟨List.append_ne_nil_of_left_ne_nil (fixedPoint_ne_nil _ _) _,
      isNumberChar_head? (fixedPoint_ne_nil _ _) (isNumberChar_fixedPoint _ _) _⟩
  unfold spelling
  simp only
  split
  · refine ⟨['0'], rfl, List.cons_ne_nil _ _, ?_⟩
    rintro c ⟨⟩
    rfl
  split
  · exact ⟨fixedPoint d.nanos 0 ++ ['n'], by simp, hnumber _ _⟩
  split
  · exact ⟨fixedPoint d.nanos 3 ++ ['µ'], by simp, hnumber _ _⟩
  split
  · exact ⟨fixedPoint d.nanos 6 ++ ['m'], by simp, hnumber _ _⟩
  refine ⟨_, rfl, ?_, ?_⟩
  · exact List.append_ne_nil_of_right_ne_nil _ (fixedPoint_ne_nil _ _)
  · -- the first of hours, minutes and seconds that is there starts the text
    have hdigits : ∀ n (more : List Char), ∀ c ∈ (Decimal.digits n ++ more).head?,
        isNumberChar c = true :=
      fun n => isNumberChar_head? (Decimal.digits_ne_nil n) (isNumberChar_digits n)
    intro c hc
    split at hc
    · rw [List.append_assoc, List.append_assoc] at hc
      exact hdigits _ _ c hc
    split at hc
    · rw [List.nil_append, List.append_assoc] at hc
      exact hdigits _ _ c hc
    · rw [List.nil_append, List.nil_append] at hc
      exact isNumberChar_fixedPoint _ _ c (List.mem_of_mem_head? hc)

theorem trim_spelling (d : Duration) : trim d.spelling = d.spelling := by
  obtain ⟨cs, hcs, hne, hhead⟩ := spelling_shape d
  refine trim_eq_self ?_ ?_
  · intro c hc
    obtain ⟨a, as, rfl⟩ := List.exists_cons_of_ne_nil hne
    rw [hcs] at hc
    exact isBlank_of_isNumberChar (hhead c hc)
  · intro c hc
    rw [hcs, List.getLast?_concat, Option.mem_some] at hc
    rw [← hc]
    rfl

theorem render_ne_empty (d : Duration) : d.render ≠ "" := by
  intro h
  obtain ⟨cs, hcs, -, -⟩ := spelling_shape d
  have hnil := congrArg String.toList h
  rw [render, String.toList_ofList, hcs] at hnil
  exact absurd hnil (by simp)

theorem parse_render (d : Duration) : parse d.render = .ok d := by
  obtain ⟨cs, hcs, hne, -⟩ := spelling_shape d
  have hnil : d.spelling ≠ [] := by
    rw [hcs]
    simp
  have hzero : d.spelling ≠ ['0'] := by
    rw [hcs]
    intro h
    -- a zero without a unit ends in no letter
    have hlast := congrArg List.getLast? h
    rw [List.getLast?_concat] at hlast
    exact absurd hlast (by decide)
  unfold parse
  simp only [render, String.toList_ofList, trim_spelling, if_neg hnil, if_neg hzero,
    sum_spelling, dif_pos d.nanos_lt]

/-- A canonical spelling is in canonical form. -/
theorem canonicalize_render (d : Duration) : canonicalize d.render = .ok d.render := by
  rw [canonicalize, parse_render]
  rfl

theorem render_injective {d e : Duration} (h : d.render = e.render) : d = e := by
  have hparse := parse_render d
  rw [h, parse_render e] at hparse
  exact (Except.ok.inj hparse).symm

end AlertRules.Duration
