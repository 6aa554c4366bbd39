/-
AlertRules/Proofs/Duration/Length.lean

What a text in the place of a duration denotes.  A blank text denotes no time at all,
any other the duration that is read from it, if there is one (`length?`).

Normalising a text depends on that length alone: it gives the normal text of the
length (`normalize_of_length?`), and two lengths have two normal texts
(`normalText_injective`).  So two texts are normalised alike exactly where they denote
the same length, however they are spelled.
-/
import AlertRules.Proofs.Duration.Reading

namespace AlertRules.Duration

open Text

/-- The length of time that a text denotes; a blank one denotes none at all. -/
def length? (value : String) : Option Duration :=
  if isBlankText value then some zero else (parse value).toOption

/-- The normal text of a length: the canonical spelling, or nothing for no time. -/
def normalText (d : Duration) : String := if d.nanos = 0 then "" else d.render

theorem length?_of_blank {value : String} (h : isBlankText value = true) :
    length? value = some zero := if_pos h

theorem length?_of_parse {value : String} {d : Duration} (h : parse value = .ok d) :
    length? value = some d := by
  have hblank : ¬ isBlankText value = true := by
    intro hb
    rw [parse, if_pos (trim_eq_nil_iff.2 hb)] at h
    cases h
  rw [length?, if_neg hblank, h]
  rfl

/-- A text denotes a length if it is blank or can be read as a duration. -/
theorem length?_eq_some_iff {value : String} {d : Duration} :
    length? value = some d ↔
      (isBlankText value = true ∧ d = zero) ∨ parse value = .ok d := by
  constructor
  · intro h
    unfold length? at h
    split at h
    · next hb => exact .inl ⟨hb, (Option.some.inj h).symm⟩
    · cases hp : parse value with
      | error e => rw [hp] at h; cases h
      | ok a => rw [hp] at h; exact .inr (congrArg _ (Option.some.inj h))
  · rintro (⟨hb, rfl⟩ | hp)
    · exact length?_of_blank hb
    · exact length?_of_parse hp

/-! ### White space around a text -/

/-- The white space around a duration does not matter. -/
theorem parse_trim_eq_ok_iff {value : String} {d : Duration} :
    parse (String.ofList (trim value.toList)) = .ok d ↔ parse value = .ok d := by
  unfold parse
  simp only [String.toList_ofList, trim_trim]
  split
  · simp
  split
  · rfl
  cases sum (trim value.toList) 0 with
  | error fault => simp
  | ok nanos => by_cases h : nanos < nanosBound <;> simp [h]

/-! ### Normal texts -/

/-- The normal text of a length denotes that length. -/
theorem length?_normalText (d : Duration) : length? d.normalText = some d := by
  unfold normalText
  split
  · next hzero =>
    rw [length?_of_blank rfl]
    exact congrArg some (Duration.ext hzero.symm)
  · exact length?_of_parse (parse_render d)

theorem normalText_injective {d e : Duration} (h : d.normalText = e.normalText) : d = e := by
  have hlength := length?_normalText d
  rw [h, length?_normalText e] at hlength
  exact (Option.some.inj hlength).symm

theorem normalize_of_length? {value : String} {d : Duration} (h : length? value = some d) :
    normalize value = .ok d.normalText := by
  unfold normalize
  rcases length?_eq_some_iff.1 h with ⟨hb, rfl⟩ | hp
  · rw [if_pos (trim_eq_nil_iff.2 hb)]
    rfl
  · have hne : trim value.toList ≠ [] := by
      intro hnil
      rw [parse, if_pos hnil] at hp
      cases hp
    simp only [if_neg hne, parse_trim_eq_ok_iff.2 hp]
    rfl

theorem normalize_of_none {value : String} (h : length? value = none) :
    ∃ e, parse (String.ofList (trim value.toList)) = .error e ∧ normalize value = .error e := by
  have hne : trim value.toList ≠ [] := by
    intro hnil
    rw [length?_of_blank (trim_eq_nil_iff.1 hnil)] at h
    cases h
  cases hp : parse (String.ofList (trim value.toList)) with
  | error e => exact ⟨e, rfl, by simp only [normalize, if_neg hne, hp]⟩
  | ok d =>
    rw [length?_of_parse (parse_trim_eq_ok_iff.1 hp)] at h
    cases h

/-- The texts that can be normalised are those that denote a length. -/
theorem normalize_eq_ok_iff {value text : String} :
    normalize value = .ok text ↔ ∃ d, length? value = some d ∧ text = d.normalText := by
  constructor
  · intro h
    cases hl : length? value with
    | some d =>
      rw [normalize_of_length? hl] at h
      exact ⟨d, rfl, (Except.ok.inj h).symm⟩
    | none =>
      obtain ⟨e, -, he⟩ := normalize_of_none hl
      rw [he] at h
      cases h
  · rintro ⟨d, hl, rfl⟩
    exact normalize_of_length? hl

/-- What cannot be normalised is what denotes no length; the reason is the one that
reading the text without the white space around it gives. -/
theorem normalize_eq_error_iff {value : String} {e : Error} :
    normalize value = .error e ↔
      length? value = none ∧ parse (String.ofList (trim value.toList)) = .error e := by
  constructor
  · intro h
    cases hl : length? value with
    | some d =>
      rw [normalize_of_length? hl] at h
      cases h
    | none =>
      obtain ⟨e', hp, he⟩ := normalize_of_none hl
      rw [he] at h
      cases h
      exact ⟨rfl, hp⟩
  · rintro ⟨hnone, hp⟩
    obtain ⟨e', hp', he⟩ := normalize_of_none hnone
    rw [hp'] at hp
    cases hp
    exact he

end AlertRules.Duration
