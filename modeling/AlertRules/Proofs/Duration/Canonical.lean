/-
AlertRules/Proofs/Duration/Canonical.lean

The language of canonical spellings.  `IsCanonical` says, in terms of texts alone, what
a canonical spelling looks like: no time is `0s`, a length below a second is a single
number of nanoseconds, microseconds or milliseconds, and from a second on there are
hours, minutes and seconds, the first two left out as long as they are zero.

These texts are the spellings of durations and nothing else: every spelling is of one of
these forms (`spelling_isCanonical`), and every text of such a form is the spelling of the
duration that its parts add up to (`exists_spelling_eq`).  With the reader that undoes
writing it follows that the fixed points of `canonicalize` are exactly this language
(`canonical_language`).
-/
import AlertRules.Proofs.Duration.Reading

namespace AlertRules.Duration

open Text Text.Decimal

/-- The canonical spellings of durations. -/
inductive IsCanonical : List Char → Prop
  | zero : IsCanonical ['0', 's']
  /-- Below a second, in the largest unit that leaves a whole part. -/
  | single {places : Nat} {unit w f : List Char} :
      (places, unit) ∈ [(0, ['n', 's']), (3, ['\u00b5', 's']), (6, ['m', 's'])] →
      IsNumeral w → 1 ≤ value w → value w ≤ 999 → IsFraction places f →
      IsCanonical (w ++ f ++ unit)
  | seconds {s f : List Char} :
      IsNumeral s → 1 ≤ value s → value s ≤ 59 → IsFraction 9 f →
      IsCanonical (s ++ f ++ ['s'])
  | minutes {m s f : List Char} :
      IsNumeral m → 1 ≤ value m → value m ≤ 59 →
      IsNumeral s → value s ≤ 59 → IsFraction 9 f →
      IsCanonical (m ++ ['m'] ++ (s ++ f ++ ['s']))
  | hours {h m s f : List Char} :
      IsNumeral h → 1 ≤ value h → IsNumeral m → value m ≤ 59 →
      IsNumeral s → value s ≤ 59 → IsFraction 9 f →
      value h * 3600 + value m * 60 + value s < 2 ^ 64 →
      IsCanonical (h ++ ['h'] ++ (m ++ ['m'] ++ (s ++ f ++ ['s'])))

/-! ### Fixed-point numbers -/

/-- A fixed-point number is a numeral for its whole part and a fraction. -/
theorem fixedPoint_shape (n places : Nat) :
    ∃ w f, fixedPoint n places = w ++ f ∧ IsNumeral w ∧ value w = n / 10 ^ places ∧
      IsFraction places f := by
  have hpos : 0 < 10 ^ places := Nat.pow_pos (by decide)
  rw [fixedPoint_eq]
  split
  · exact ⟨_, [], (List.append_nil _).symm, isNumeral_digits _, value_digits _, .none⟩
  · next hne =>
    have hplaces : 0 < places := by
      rcases Nat.eq_zero_or_pos places with rfl | h
      · exact absurd (Nat.mod_one n) hne
      · exact h
    have hlt : n % 10 ^ places < 10 ^ places := Nat.mod_lt _ hpos
    refine ⟨_, _, rfl, isNumeral_digits _, value_digits _, .some ?_ ?_ ?_ ?_⟩
    · -- nothing left would mean that the fraction is zero
      intro hnil
      have hvalue := value_fraction hplaces hlt
      rw [hnil] at hvalue
      exact hne (by simpa [value] using hvalue.symm)
    · exact Nat.le_trans (length_stripZeros_le _) (Nat.le_of_eq (length_padded hplaces hlt))
    · exact fun c hc => all_isDigit_padded _ _ c (stripZeros_subset _ c hc)
    · exact getLast?_stripZeros _

/-- A numeral and a fraction make up a fixed-point number. -/
theorem exists_fixedPoint_eq {places : Nat} {w f : List Char} (hw : IsNumeral w)
    (hf : IsFraction places f) :
    ∃ part < 10 ^ places, fixedPoint (value w * 10 ^ places + part) places = w ++ f := by
  have hpos : 0 < 10 ^ places := Nat.pow_pos (by decide)
  have hsplit : ∀ part < 10 ^ places,
      (value w * 10 ^ places + part) / 10 ^ places = value w ∧
        (value w * 10 ^ places + part) % 10 ^ places = part := by
    intro part hpart
    rw [Nat.mul_comm]
    exact ⟨by rw [Nat.mul_add_div hpos, Nat.div_eq_of_lt hpart, Nat.add_zero],
      by rw [Nat.mul_add_mod, Nat.mod_eq_of_lt hpart]⟩
  cases hf with
  | none =>
    obtain ⟨hdiv, hmod⟩ := hsplit 0 hpos
    refine ⟨0, hpos, ?_⟩
    rw [fixedPoint_eq, if_pos hmod, hdiv, digits_value hw, List.append_nil]
  | @some ds hne hlength hdigit hlast =>
    -- the digits of the fraction, filled up with zeros to the number of places
    let full := ds ++ List.replicate (places - ds.length) '0'
    have hfull : full.length = places := by
      rw [List.length_append, List.length_replicate]
      omega
    have hfullDigit : ∀ c ∈ full, c.isDigit = true := by
      intro c hc
      rcases List.mem_append.1 hc with hc | hc
      · exact hdigit c hc
      · rw [List.eq_of_mem_replicate hc]
        rfl
    have hlt : value full < 10 ^ places := hfull ▸ value_lt hfullDigit
    have hpadded : padded places (value full) = full := by
      have := padded_value (List.append_ne_nil_of_left_ne_nil hne _) hfullDigit
      rwa [hfull] at this
    have hvalue : value full ≠ 0 := by
      -- the last digit of the fraction is no zero
      obtain ⟨bs, c, rfl⟩ : ∃ bs c, ds = bs ++ [c] :=
        ⟨_, _, (List.dropLast_concat_getLast hne).symm⟩
      have hc : c ≠ '0' := fun hc => hlast (by simp [hc])
      have hcpos := digitValue_pos (hdigit c (by simp)) hc
      rw [value_append, value_replicate_zero, value_append_singleton, Nat.add_zero]
      exact Nat.mul_ne_zero (by omega) (Nat.ne_of_gt (Nat.pow_pos (by decide)))
    obtain ⟨hdiv, hmod⟩ := hsplit _ hlt
    refine ⟨value full, hlt, ?_⟩
    rw [fixedPoint_eq, hmod, if_neg hvalue, hdiv, digits_value hw, hpadded,
      stripZeros_append_replicate hlast]

/-! ### Spellings are canonical -/

theorem spelling_isCanonical (d : Duration) : IsCanonical d.spelling := by
  unfold spelling
  simp only
  split
  · exact .zero
  next hzero =>
  -- below a second the whole part is the quotient by the size of the unit
  have hsingle : ∀ {places unit}, (places, unit) ∈
      [(0, ['n', 's']), (3, ['\u00b5', 's']), (6, ['m', 's'])] →
      10 ^ places ≤ d.nanos → d.nanos < 1000 * 10 ^ places →
      IsCanonical (fixedPoint d.nanos places ++ unit) := by
    intro places unit hunit hge hlt
    obtain ⟨w, f, heq, hw, hvalue, hf⟩ := fixedPoint_shape d.nanos places
    have hpos : 0 < 10 ^ places := Nat.pow_pos (by decide)
    have hone : 1 ≤ value w := hvalue ▸ (Nat.one_le_div_iff hpos).2 hge
    have hmost : value w < 1000 := hvalue ▸ (Nat.div_lt_iff_lt_mul hpos).2 hlt
    rw [heq]
    exact .single hunit hw hone (by omega) hf
  split
  · exact hsingle (by simp) (by omega) (by omega)
  split
  · exact hsingle (by simp) (by omega) (by omega)
  split
  · next hnano =>
    exact hsingle (by simp) (by omega) hnano
  next hsecond =>
  have hseconds : d.seconds < 2 ^ 64 := (Nat.div_lt_iff_lt_mul (by decide)).2 d.nanos_lt
  have hone : 1 ≤ d.seconds := (Nat.one_le_div_iff (by decide)).2 (by omega)
  have hsubsec : d.subsecNanos < nanosPerSecond := Nat.mod_lt _ (by decide)
  obtain ⟨s, f, heq, hs, hvalue, hf⟩ :=
    fixedPoint_shape (d.seconds % 60 * nanosPerSecond + d.subsecNanos) 9
  have hsvalue : value s = d.seconds % 60 := by
    rw [hvalue]
    unfold nanosPerSecond at hsubsec ⊢
    omega
  rw [heq, List.append_assoc, List.append_assoc]
  by_cases hhours : 0 < d.seconds / 3600
  · rw [if_pos hhours, if_pos (.inl hhours)]
    refine .hours (isNumeral_digits _) ?_ (isNumeral_digits _) ?_ hs ?_ hf ?_ <;>
      simp only [value_digits, hsvalue] <;> omega
  by_cases hminutes : 0 < d.seconds % 3600 / 60
  · rw [if_neg hhours, if_pos (.inr hminutes), List.nil_append]
    refine .minutes (isNumeral_digits _) ?_ ?_ hs ?_ hf <;>
      simp only [value_digits, hsvalue] <;> omega
  · rw [if_neg hhours, if_neg (not_or.2 ⟨hhours, hminutes⟩), List.nil_append, List.nil_append]
    exact .seconds hs (by omega) (by omega) hf

/-! ### Canonical texts are spellings -/

/-- From a second on, the parts of a length are those that its spelling shows. -/
theorem spelling_of_parts {h m s part : Nat} (hm : m ≤ 59) (hs : s ≤ 59)
    (hpart : part < nanosPerSecond) (hone : 1 ≤ h * 3600 + m * 60 + s)
    (hbound : (h * 3600 + m * 60 + s) * nanosPerSecond + part < nanosBound) :
    spelling ⟨(h * 3600 + m * 60 + s) * nanosPerSecond + part, hbound⟩ =
      (if 0 < h then digits h ++ ['h'] else []) ++
        (if 0 < h ∨ 0 < m then digits m ++ ['m'] else []) ++
          fixedPoint (s * nanosPerSecond + part) 9 ++ ['s'] := by
  generalize hd : (⟨_, hbound⟩ : Duration) = d
  have hnanos : d.nanos = (h * 3600 + m * 60 + s) * nanosPerSecond + part :=
    (congrArg Duration.nanos hd).symm
  have hseconds : d.seconds = h * 3600 + m * 60 + s := by
    rw [seconds, hnanos, Nat.mul_comm, Nat.mul_add_div (by decide), Nat.div_eq_of_lt hpart,
      Nat.add_zero]
  have hsubsec : d.subsecNanos = part := by
    rw [subsecNanos, hnanos, Nat.mul_comm, Nat.mul_add_mod, Nat.mod_eq_of_lt hpart]
  have hlarge : nanosPerSecond ≤ d.nanos := by
    rw [hnanos]
    exact Nat.le_trans (Nat.le_mul_of_pos_left _ hone) (Nat.le_add_right _ _)
  have hsize : nanosPerSecond = 1000000000 := rfl
  unfold spelling
  simp only
  rw [if_neg (by omega), if_neg (by omega), if_neg (by omega), if_neg (by omega), hseconds,
    hsubsec, show (h * 3600 + m * 60 + s) / 3600 = h by omega,
    show (h * 3600 + m * 60 + s) % 3600 / 60 = m by omega,
    show (h * 3600 + m * 60 + s) % 60 = s by omega]

/-- Hours, minutes and seconds with a fraction, the first two left out where they are zero,
spell what they add up to. -/
theorem exists_spelling_of_parts {h m : Nat} {s f : List Char} (hm : m ≤ 59)
    (hs : IsNumeral s) (hsle : value s ≤ 59) (hf : IsFraction 9 f)
    (hone : 1 ≤ h * 3600 + m * 60 + value s)
    (hlt : h * 3600 + m * 60 + value s < 2 ^ 64) :
    ∃ d : Duration, d.spelling =
      (if 0 < h then digits h ++ ['h'] else []) ++
        (if 0 < h ∨ 0 < m then digits m ++ ['m'] else []) ++ (s ++ f) ++ ['s'] := by
  obtain ⟨part, hpart, heq⟩ := exists_fixedPoint_eq hs hf
  have hbound : (h * 3600 + m * 60 + value s) * nanosPerSecond + part < nanosBound := by
    have hle : (h * 3600 + m * 60 + value s + 1) * nanosPerSecond ≤ nanosBound :=
      Nat.mul_le_mul_right _ hlt
    rw [Nat.add_mul, Nat.one_mul] at hle
    exact Nat.lt_of_lt_of_le (Nat.add_lt_add_left hpart _) hle
  refine ⟨_, (spelling_of_parts hm hsle hpart hone hbound).trans ?_⟩
  rw [← heq]
  rfl

theorem exists_spelling_eq {cs : List Char} (hcs : IsCanonical cs) :
    ∃ d : Duration, d.spelling = cs := by
  cases hcs with
  | zero => exact ⟨Duration.zero, rfl⟩
  | @single places unit w f hunit hw hone hmost hf =>
    obtain ⟨part, hpart, heq⟩ := exists_fixedPoint_eq hw hf
    rw [← heq]
    have hlow : 10 ^ places ≤ value w * 10 ^ places + part :=
      Nat.le_trans (Nat.le_mul_of_pos_left _ hone) (Nat.le_add_right _ _)
    have hhigh : value w * 10 ^ places + part < 1000 * 10 ^ places := by
      have := Nat.mul_le_mul_right (10 ^ places) hmost
      omega
    generalize value w * 10 ^ places + part = n at hlow hhigh
    have hunits : (places = 0 ∧ unit = ['n', 's']) ∨ (places = 3 ∧ unit = ['\u00b5', 's']) ∨
        (places = 6 ∧ unit = ['m', 's']) := by simpa using hunit
    have hsize : nanosPerSecond = 1000000000 := rfl
    have hbound : n < nanosBound := by
      refine Nat.lt_of_lt_of_le hhigh ?_
      rcases hunits with ⟨rfl, -⟩ | ⟨rfl, -⟩ | ⟨rfl, -⟩ <;> decide
    -- the size of the number decides which unit its spelling has
    refine ⟨⟨n, hbound⟩, ?_⟩
    unfold spelling
    simp only
    rcases hunits with ⟨rfl, rfl⟩ | ⟨rfl, rfl⟩ | ⟨rfl, rfl⟩
    · rw [if_neg (by omega), if_pos (by omega)]
    · rw [if_neg (by omega), if_neg (by omega), if_pos (by omega)]
    · rw [if_neg (by omega), if_neg (by omega), if_neg (by omega), if_pos (by omega)]
  | @seconds s f hs hone hmost hf =>
    obtain ⟨d, hd⟩ := exists_spelling_of_parts (h := 0) (m := 0) (by decide) hs hmost hf
      (by omega) (by omega)
    exact ⟨d, by simpa using hd⟩
  | @minutes m s f hm hone hmost hs hsmost hf =>
    obtain ⟨d, hd⟩ := exists_spelling_of_parts (h := 0) hmost hs hsmost hf (by omega) (by omega)
    have hm0 : 0 < value m := hone
    rw [if_neg (Nat.lt_irrefl 0), if_pos (Or.inr hm0), digits_value hm] at hd
    exact ⟨d, by simpa using hd⟩
  | @hours h m s f hh hone hm hmost hs hsmost hf hlt =>
    obtain ⟨d, hd⟩ := exists_spelling_of_parts hmost hs hsmost hf (by omega) hlt
    have hh0 : 0 < value h := hone
    rw [if_pos hh0, if_pos (Or.inl hh0), digits_value hh, digits_value hm] at hd
    exact ⟨d, by simpa using hd⟩

/-! ### Fixed points -/

theorem canonicalize_eq_ok_iff {s t : String} :
    canonicalize s = .ok t ↔ ∃ d, parse s = .ok d ∧ t = d.render := by
  unfold canonicalize
  cases parse s with
  | error e => exact ⟨nofun, nofun⟩
  | ok d =>
    constructor
    · intro h
      exact ⟨d, rfl, (Except.ok.inj h).symm⟩
    · rintro ⟨_, ⟨⟩, rfl⟩
      rfl

/-- A text is canonical exactly if it is the spelling of some duration. -/
theorem isCanonical_iff {s : String} : IsCanonical s.toList ↔ ∃ d : Duration, s = d.render := by
  constructor
  · intro h
    obtain ⟨d, hd⟩ := exists_spelling_eq h
    exact ⟨d, by rw [render, hd, String.ofList_toList]⟩
  · rintro ⟨d, rfl⟩
    rw [render, String.toList_ofList]
    exact spelling_isCanonical d

/-- Every duration is read back from its spelling; the texts that canonicalizing leaves
alone are those of the canonical language; so canonicalizing twice is canonicalizing once,
and two durations have two spellings. -/
theorem canonical_language :
    (∀ d : Duration, parse d.render = .ok d) ∧
    (∀ s, canonicalize s = .ok s ↔ IsCanonical s.toList) ∧
    (∀ s t, canonicalize s = .ok t → canonicalize t = .ok t) ∧
    Function.Injective render := by
  have hfixed : ∀ d : Duration, canonicalize d.render = .ok d.render := fun d =>
    canonicalize_eq_ok_iff.2 ⟨d, parse_render d, rfl⟩
  refine ⟨parse_render, ?_, ?_, fun _ _ => render_injective⟩
  · intro s
    rw [isCanonical_iff]
    constructor
    · intro h
      obtain ⟨d, -, hd⟩ := canonicalize_eq_ok_iff.1 h
      exact ⟨d, hd⟩
    · rintro ⟨d, rfl⟩
      exact hfixed d
  · intro s t h
    obtain ⟨d, -, rfl⟩ := canonicalize_eq_ok_iff.1 h
    exact hfixed d

end AlertRules.Duration
