/-
AlertRules/Proofs/Duration/Grammar.lean

The language of durations.  A text denotes a length if it is a row of components, each a
number and a unit (`Component`); what it denotes is the sum of what its components do.

A component carries the reasons why it is one, so a row of components is no more than a
list, and components may come in any order and as often as one likes.  Reading finds the
components again, because no character of a number is one of a unit (`sum_rowChars`,
`exists_rowChars`).

The reader refuses results from 2^128 on.  It does so at every step, but no step is
larger than the sum of all, and lengths end far below; so of the texts in the language it
reads those whose length is in range, and no others (`parse_language`).  What it leaves
unchecked is the scaling of a fraction, which has eighteen digits at most.
-/
import AlertRules.Proofs.Duration.Reading

namespace AlertRules.Duration

open Text Text.Decimal

/-! ### Units -/

/-- The units and their nanoseconds. -/
def units : List (List Char × Nat) :=
  [(['n', 's'], 1), (['u', 's'], 1000), (['\u00b5', 's'], 1000), (['\u03bc', 's'], 1000),
    (['m', 's'], 1000000), (['s'], 1000000000), (['m'], 60000000000), (['h'], 3600000000000),
    (['d'], 86400000000000), (['w'], 604800000000000), (['y'], 31536000000000000)]

theorem unitNanos?_eq_some_iff {unit : List Char} {scale : Nat} :
    unitNanos? unit = some scale ↔ (unit, scale) ∈ units := by
  constructor
  · intro h
    unfold unitNanos? at h
    split at h
    all_goals cases h
    all_goals decide
  · have hunits : ∀ u ∈ units, unitNanos? u.1 = some u.2 := by decide
    exact hunits (unit, scale)

theorem scale_bounds : ∀ u ∈ units, 1 ≤ u.2 ∧ u.2 ≤ 31536000000000000 := by decide

/-! ### Checks -/

theorem eq_of_checked {n m : Nat} (h : checked n = some m) : n = m := by
  unfold checked at h
  split at h
  · exact Option.some.inj h
  · cases h

theorem le_of_checked {n : Nat} (h : checked n = none) : wordBound ≤ n := by
  unfold checked at h
  split at h
  · cases h
  · next hge => exact Nat.le_of_not_lt hge

theorem checked_eq_none {n : Nat} (h : wordBound ≤ n) : checked n = none :=
  if_neg (Nat.not_lt.2 h)

/-! ### Components -/

/-- A number and its unit.  The number is a run of digits with a point in it or none; the
point may stand in front or behind, but there is a digit. -/
@[ext] structure Component where
  whole : List Char
  /-- The digits behind the point, if there is one. -/
  fraction : Option (List Char)
  unit : List Char
  scale : Nat
  isDigit_whole : ∀ c ∈ whole, c.isDigit = true
  isDigit_fraction : ∀ ds ∈ fraction, ∀ c ∈ ds, c.isDigit = true
  has_digit : whole ≠ [] ∨ ∃ ds ∈ fraction, ds ≠ []
  mem_units : (unit, scale) ∈ units

namespace Component

/-- What is written behind the whole part of a number. -/
def point : Option (List Char) → List Char
  | none => []
  | some ds => '.' :: ds

def number (c : Component) : List Char := c.whole ++ point c.fraction

def chars (c : Component) : List Char := c.number ++ c.unit

/-- The first eighteen digits behind the point. -/
def cut (c : Component) : List Char := (c.fraction.getD []).take 18

/-- The whole units, and the part of one that the fraction stands for. -/
def nanos (c : Component) : Nat :=
  value c.whole * c.scale + value c.cut * c.scale / 10 ^ c.cut.length

/-- The text of a row of components. -/
def rowChars (cs : List Component) : List Char := cs.flatMap chars

/-- The length that a row of components denotes. -/
def total (cs : List Component) : Nat := cs.foldr (fun c n => c.nanos + n) 0

variable (c : Component)

theorem isNumberChar_number : ∀ a ∈ c.number, isNumberChar a = true := by
  intro a ha
  rcases List.mem_append.1 ha with ha | ha
  · exact isNumberChar_of_isDigit (c.isDigit_whole a ha)
  · cases hf : c.fraction with
    | none => rw [hf] at ha; cases ha
    | some ds =>
      rw [hf] at ha
      rcases List.mem_cons.1 ha with rfl | ha
      · rfl
      · exact isNumberChar_of_isDigit (c.isDigit_fraction ds hf a ha)

theorem number_ne_nil : c.number ≠ [] := by
  rcases c.has_digit with h | ⟨ds, hds, -⟩
  · exact List.append_ne_nil_of_left_ne_nil h _
  · rw [number, Option.mem_def.1 hds]
    exact List.append_ne_nil_of_right_ne_nil _ (List.cons_ne_nil _ _)

theorem not_isNumberChar_unit : ∀ a ∈ c.unit, isNumberChar a = false := by
  have hunits : ∀ u ∈ units, (u.1.all fun a => !isNumberChar a) = true := by decide
  exact not_isNumberChar (hunits _ c.mem_units)

theorem scale_pos : 1 ≤ c.scale := (scale_bounds _ c.mem_units).1

theorem unit_ne_nil : c.unit ≠ [] := by
  have hunits : ∀ u ∈ units, u.1 ≠ [] := by decide
  exact hunits _ c.mem_units

/-! ### Scaling -/

/-- Where the whole part of a number ends. -/
theorem takeWhile_number : c.number.takeWhile (· ≠ '.') = c.whole := by
  refine takeWhile_run (fun a ha => decide_eq_true (ne_dot_of_isDigit (c.isDigit_whole a ha))) ?_
  cases c.fraction with
  | none => nofun
  | some ds => rintro a ⟨⟩; rfl

theorem dropWhile_number : c.number.dropWhile (· ≠ '.') = point c.fraction := by
  refine dropWhile_run (fun a ha => decide_eq_true (ne_dot_of_isDigit (c.isDigit_whole a ha))) ?_
  cases c.fraction with
  | none => nofun
  | some ds => rintro a ⟨⟩; rfl

theorem drop_point (fraction : Option (List Char)) :
    (point fraction).drop 1 = fraction.getD [] := by
  cases fraction <;> rfl

theorem point_injective : Function.Injective point := by
  rintro (_ | ds) (_ | ds') h
  · rfl
  · cases h
  · cases h
  · exact congrArg some (List.cons.inj h).2

/-- A component is determined by the texts of its number and its unit. -/
theorem eq_of_chars {c c' : Component} (hnumber : c.number = c'.number)
    (hunit : c.unit = c'.unit) : c = c' := by
  have hscale : some c.scale = some c'.scale := by
    rw [← unitNanos?_eq_some_iff.2 c.mem_units, hunit, unitNanos?_eq_some_iff.2 c'.mem_units]
  have hwhole : c.whole = c'.whole := by
    rw [← c.takeWhile_number, hnumber, c'.takeWhile_number]
  have hpoint : point c.fraction = point c'.fraction := by
    rw [← c.dropWhile_number, hnumber, c'.dropWhile_number]
  exact Component.ext hwhole (point_injective hpoint) hunit (Option.some.inj hscale)

/-- The digits of a component pass the reader's checks on them. -/
theorem has_value :
    (c.whole.isEmpty && (c.fraction.getD []).isEmpty || (c.fraction.getD []).contains '.') =
      false := by
  rw [Bool.or_eq_false_iff]
  constructor
  · rcases c.has_digit with h | ⟨ds, hds, h⟩
    · rw [List.isEmpty_eq_false_iff.2 h, Bool.false_and]
    · rw [Option.mem_def.1 hds, Option.getD_some, List.isEmpty_eq_false_iff.2 h, Bool.and_false]
  · rw [← Bool.not_eq_true, List.contains_iff_mem]
    intro hmem
    cases hf : c.fraction with
    | none => rw [hf] at hmem; cases hmem
    | some ds =>
      rw [hf] at hmem
      exact ne_dot_of_isDigit (c.isDigit_fraction ds hf _ hmem) rfl

/-- Of the checks on a component only the one on its whole length matters. -/
theorem scaled?_number : scaled? c.number c.scale = checked c.nanos := by
  have hcut : c.cut = (c.fraction.getD []).take 18 := rfl
  simp only [scaled?, c.takeWhile_number, c.dropWhile_number, drop_point, c.has_value, ← hcut]
  show (checked (value c.whole) >>= fun n => checked (n * c.scale) >>= fun base =>
    checked (base + value c.cut * c.scale / 10 ^ c.cut.length)) = checked c.nanos
  cases hunits : checked (value c.whole) with
  | none =>
    have hle : value c.whole ≤ c.nanos :=
      Nat.le_trans (Nat.le_mul_of_pos_right _ c.scale_pos) (Nat.le_add_right _ _)
    exact (checked_eq_none (Nat.le_trans (le_of_checked hunits) hle)).symm
  | some n =>
    obtain rfl := eq_of_checked hunits
    show (checked (value c.whole * c.scale) >>= _) = _
    cases hbase : checked (value c.whole * c.scale) with
    | none =>
      have hle : value c.whole * c.scale ≤ c.nanos := Nat.le_add_right _ _
      exact (checked_eq_none (Nat.le_trans (le_of_checked hbase) hle)).symm
    | some base =>
      obtain rfl := eq_of_checked hbase
      rfl

/-- What is computed unchecked stays below the bound, with every number of digits that are
read of a fraction. -/
theorem unchecked_lt {ds : List Char} (h : ds <+: c.cut) :
    value ds < wordBound ∧ 10 ^ ds.length < wordBound ∧ value ds * c.scale < wordBound := by
  have hdigit : ∀ a ∈ ds, a.isDigit = true := by
    intro a ha
    have hmem : a ∈ c.fraction.getD [] := List.mem_of_mem_take (h.subset ha)
    cases hf : c.fraction with
    | none => rw [hf] at hmem; cases hmem
    | some fraction =>
      rw [hf] at hmem
      exact c.isDigit_fraction fraction hf a hmem
  have hlength : ds.length ≤ 18 :=
    Nat.le_trans h.length_le (Nat.le_trans (List.length_take_le _ _) (Nat.le_refl _))
  have hpow : 10 ^ ds.length ≤ 10 ^ 18 := Nat.pow_le_pow_right (by decide) hlength
  have hvalue : value ds < 10 ^ 18 := Nat.lt_of_lt_of_le (value_lt hdigit) hpow
  have hscale : value ds * c.scale ≤ 10 ^ 18 * 31536000000000000 :=
    Nat.mul_le_mul (Nat.le_of_lt hvalue) (scale_bounds _ c.mem_units).2
  exact ⟨Nat.lt_trans hvalue (by decide), Nat.lt_of_le_of_lt hpow (by decide),
    Nat.lt_of_le_of_lt hscale (by decide)⟩

/-- A number that is scaled has a digit, and no point behind the first. -/
theorem checks_of_scaled? {number : List Char} {scale n : Nat}
    (h : scaled? number scale = some n) :
    (number.takeWhile (· ≠ '.') ≠ [] ∨ (number.dropWhile (· ≠ '.')).drop 1 ≠ []) ∧
      '.' ∉ (number.dropWhile (· ≠ '.')).drop 1 := by
  unfold scaled? at h
  generalize number.takeWhile (· ≠ '.') = whole at h ⊢
  generalize (number.dropWhile (· ≠ '.')).drop 1 = fraction at h ⊢
  have hcheck : (whole.isEmpty && fraction.isEmpty || fraction.contains '.') = false := by
    rw [← Bool.not_eq_true]
    intro hrefused
    simp only [hrefused] at h
    cases h
  rw [Bool.or_eq_false_iff, Bool.and_eq_false_iff, List.isEmpty_eq_false_iff,
    List.isEmpty_eq_false_iff, ← Bool.not_eq_true, List.contains_iff_mem] at hcheck
  exact hcheck

/-- A run of a number's characters is one of digits up to the first point, and behind it if
there is no second. -/
theorem exists_parts {number : List Char} (hnumber : ∀ a ∈ number, isNumberChar a = true)
    (hpoint : '.' ∉ (number.dropWhile (· ≠ '.')).drop 1) :
    ∃ fraction, number = number.takeWhile (· ≠ '.') ++ point fraction ∧
      fraction.getD [] = (number.dropWhile (· ≠ '.')).drop 1 ∧
      (∀ a ∈ number.takeWhile (· ≠ '.'), a.isDigit = true) ∧
      ∀ ds ∈ fraction, ∀ a ∈ ds, a.isDigit = true := by
  have hdigit : ∀ a ∈ number, a ≠ '.' → a.isDigit = true := by
    intro a ha hne
    rcases Bool.or_eq_true_iff.1 (hnumber a ha) with h | h
    · exact h
    · exact absurd (beq_iff_eq.1 h) hne
  have hsplit : number = number.takeWhile (· ≠ '.') ++ number.dropWhile (· ≠ '.') :=
    List.takeWhile_append_dropWhile.symm
  have hwhole : ∀ a ∈ number.takeWhile (· ≠ '.'), a.isDigit = true := by
    intro a ha
    refine hdigit a (hsplit ▸ List.mem_append_left _ ha) ?_
    simpa using List.all_eq_true.1 (List.all_takeWhile (p := (· ≠ '.')) (l := number)) a ha
  cases hrest : number.dropWhile (· ≠ '.') with
  | nil =>
    rw [hrest] at hsplit
    exact ⟨none, hsplit, rfl, hwhole, nofun⟩
  | cons a ds =>
    obtain rfl : a = '.' := by
      have hhead := List.head?_dropWhile_not (p := (· ≠ '.')) number
      rw [hrest] at hhead
      simpa using hhead
    rw [hrest] at hsplit hpoint
    refine ⟨some ds, hsplit, rfl, hwhole, ?_⟩
    rintro ds' ⟨⟩ b hb
    refine hdigit b (hsplit ▸ List.mem_append_right _ (.tail _ hb)) ?_
    rintro rfl
    exact hpoint hb

/-- A run of a number's characters that is scaled is the number of a component. -/
theorem exists_number {number unit : List Char} {scale n : Nat}
    (hnumber : ∀ a ∈ number, isNumberChar a = true) (hunit : (unit, scale) ∈ units)
    (h : scaled? number scale = some n) :
    ∃ c : Component, c.number = number ∧ c.unit = unit ∧ c.scale = scale := by
  obtain ⟨hdigit, hpoint⟩ := checks_of_scaled? h
  obtain ⟨fraction, hparts, hfraction, hwhole, hds⟩ := exists_parts hnumber hpoint
  rw [← hfraction] at hdigit
  have hsome : number.takeWhile (· ≠ '.') ≠ [] ∨ ∃ ds ∈ fraction, ds ≠ [] := by
    refine hdigit.imp id fun hne => ?_
    cases fraction with
    | none => exact absurd rfl hne
    | some ds => exact ⟨ds, rfl, hne⟩
  exact ⟨⟨_, fraction, unit, scale, hwhole, hds, hsome, hunit⟩, hparts.symm, rfl, rfl⟩

end Component

/-! ### Rows of components -/

open Component

theorem isNumberChar_head?_rowChars (cs : List Component) :
    ∀ a ∈ (rowChars cs).head?, isNumberChar a = true := by
  cases cs with
  | nil => nofun
  | cons c cs =>
    rw [rowChars, List.flatMap_cons, chars, List.append_assoc]
    exact isNumberChar_head? c.number_ne_nil c.isNumberChar_number _

/-- A row of components is read as the sum of what they denote, if that is in range. -/
theorem sum_rowChars (cs : List Component) {n : Nat} (h : n + total cs < wordBound) :
    sum (rowChars cs) n = .ok (n + total cs) := by
  induction cs generalizing n with
  | nil =>
    rw [rowChars, List.flatMap_nil, sum]
    rfl
  | cons c cs ih =>
    have htotal : total (c :: cs) = c.nanos + total cs := rfl
    rw [htotal, ← Nat.add_assoc] at h ⊢
    have hhere : n + c.nanos < wordBound := Nat.lt_of_le_of_lt (Nat.le_add_right _ _) h
    have hnanos : c.nanos < wordBound := Nat.lt_of_le_of_lt (Nat.le_add_left _ _) hhere
    rw [rowChars, List.flatMap_cons, chars, ← rowChars,
      sum_component c.number_ne_nil c.isNumberChar_number c.not_isNumberChar_unit
        (isNumberChar_head?_rowChars cs) (unitNanos?_eq_some_iff.2 c.mem_units)
        (c.scaled?_number.trans (checked_eq_some hnanos)) hhere]
    exact ih h

/-- What is read is a row of components. -/
theorem exists_rowChars {cs : List Char} {start n : Nat} (h : sum cs start = .ok n) :
    ∃ row, cs = rowChars row ∧ n = start + total row := by
  fun_induction sum cs start with
  | case1 start => exact ⟨[], rfl, (Except.ok.inj h).symm⟩
  | case6 start c r hc number tail unit _ scale hscale m hm next hnext ih =>
    obtain ⟨row, hrow, hn⟩ := ih h
    have hnumber : ∀ a ∈ number, isNumberChar a = true :=
      List.forall_mem_cons.2 ⟨hc, List.all_eq_true.1 List.all_takeWhile⟩
    obtain ⟨first, hfirst, hunit, rfl⟩ :=
      exists_number hnumber (unitNanos?_eq_some_iff.1 hscale) hm
    refine ⟨first :: row, ?_, ?_⟩
    · have htail : unit ++ tail.dropWhile (fun a => !isNumberChar a) = tail :=
        List.takeWhile_append_dropWhile
      rw [rowChars, List.flatMap_cons, chars, hfirst, hunit, List.append_assoc, ← rowChars,
        ← hrow, htail]
      exact congrArg (c :: ·) List.takeWhile_append_dropWhile.symm
    · rw [← hfirst, first.scaled?_number] at hm
      rw [hn, ← eq_of_checked hnext, ← eq_of_checked hm, Nat.add_assoc]
      rfl
  | _ => cases h

/-- No row of components is a bare zero. -/
theorem rowChars_ne_zero {cs : List Component} (h : cs ≠ []) : rowChars cs ≠ ['0'] := by
  obtain ⟨c, cs, rfl⟩ := List.exists_cons_of_ne_nil h
  intro hzero
  have hnumber := List.length_pos_iff.2 c.number_ne_nil
  have hunit := List.length_pos_iff.2 c.unit_ne_nil
  have hlength := congrArg List.length hzero
  rw [rowChars, List.flatMap_cons, chars, List.length_append, List.length_append] at hlength
  simp only [List.length_singleton] at hlength
  omega

theorem rowChars_ne_nil {cs : List Component} (h : cs ≠ []) : rowChars cs ≠ [] := by
  obtain ⟨c, cs, rfl⟩ := List.exists_cons_of_ne_nil h
  rw [rowChars, List.flatMap_cons, chars, List.append_assoc]
  exact List.append_ne_nil_of_left_ne_nil c.number_ne_nil _

/-- The parts of a first component end where characters of another kind follow. -/
theorem split_rowChars (c : Component) (cs : List Component) :
    (rowChars (c :: cs)).takeWhile isNumberChar = c.number ∧
      (rowChars (c :: cs)).dropWhile isNumberChar = c.unit ++ rowChars cs ∧
      (c.unit ++ rowChars cs).takeWhile (fun a => !isNumberChar a) = c.unit ∧
      (c.unit ++ rowChars cs).dropWhile (fun a => !isNumberChar a) = rowChars cs := by
  have hchars : rowChars (c :: cs) = c.number ++ (c.unit ++ rowChars cs) := by
    rw [rowChars, List.flatMap_cons, chars, List.append_assoc, ← rowChars]
  have hletter : ∀ a ∈ (c.unit ++ rowChars cs).head?, isNumberChar a = false := by
    obtain ⟨u, us, hunit⟩ := List.exists_cons_of_ne_nil c.unit_ne_nil
    intro a ha
    rw [hunit] at ha
    cases ha
    exact c.not_isNumberChar_unit u (hunit ▸ List.mem_cons_self)
  have hletters : ∀ a ∈ c.unit, (!isNumberChar a) = true := fun a ha => by
    rw [c.not_isNumberChar_unit a ha]
    rfl
  have hnext : ∀ a ∈ (rowChars cs).head?, (!isNumberChar a) = false := fun a ha => by
    rw [isNumberChar_head?_rowChars cs a ha]
    rfl
  rw [hchars]
  exact ⟨takeWhile_run c.isNumberChar_number hletter, dropWhile_run c.isNumberChar_number hletter,
    takeWhile_run hletters hnext, dropWhile_run hletters hnext⟩

/-- No text is a row of components in two ways. -/
theorem rowChars_injective : Function.Injective rowChars := by
  intro cs cs' h
  induction cs generalizing cs' with
  | nil =>
    cases cs' with
    | nil => rfl
    | cons c' cs' => exact absurd h.symm (rowChars_ne_nil (List.cons_ne_nil _ _))
  | cons c cs ih =>
    cases cs' with
    | nil => exact absurd h (rowChars_ne_nil (List.cons_ne_nil _ _))
    | cons c' cs' =>
      obtain ⟨hnumber, hrest, hunit, hmore⟩ := split_rowChars c cs
      obtain ⟨hnumber', hrest', hunit', hmore'⟩ := split_rowChars c' cs'
      rw [h, hnumber'] at hnumber
      rw [h, hrest'] at hrest
      rw [← hrest, hunit'] at hunit
      rw [← hrest, hmore'] at hmore
      rw [eq_of_chars hnumber.symm hunit.symm, ih hmore.symm]

theorem total_perm {cs cs' : List Component} (h : cs.Perm cs') : total cs = total cs' :=
  h.foldr_eq' (fun c _ c' _ n => Nat.add_left_comm c'.nanos c.nanos n) 0

/-- There is no white space in a row of components. -/
theorem trim_rowChars (cs : List Component) : trim (rowChars cs) = rowChars cs := by
  have hunits : ∀ u ∈ units, u.1.any isBlank = false := by decide
  have hblank : ∀ a ∈ rowChars cs, isBlank a = false := by
    intro a ha
    obtain ⟨c, -, ha⟩ := List.mem_flatMap.1 ha
    rcases List.mem_append.1 ha with ha | ha
    · exact isBlank_of_isNumberChar (c.isNumberChar_number a ha)
    · exact Bool.eq_false_iff.2 (List.any_eq_false.1 (hunits _ c.mem_units) a ha)
  exact trim_eq_self (fun a ha => hblank a (List.mem_of_mem_head? ha))
    (fun a ha => hblank a (List.mem_of_getLast? ha))

/-! ### Durations -/

/-- What is read as a duration: a bare zero, or a row of components in range. -/
theorem parse_eq_ok_iff {input : String} {d : Duration} :
    parse input = .ok d ↔ (trim input.toList = ['0'] ∧ d.nanos = 0) ∨
      ∃ cs : List Component, cs ≠ [] ∧ trim input.toList = rowChars cs ∧ total cs = d.nanos := by
  unfold parse
  generalize trim input.toList = s
  constructor
  · intro h
    simp only at h
    split at h
    · cases h
    next hne =>
    split at h
    · next hzero =>
      cases h
      exact .inl ⟨hzero, rfl⟩
    · split at h
      · cases h
      next n hsum =>
      split at h
      · cases h
        obtain ⟨cs, rfl, htotal⟩ := exists_rowChars hsum
        rw [Nat.zero_add] at htotal
        refine .inr ⟨cs, ?_, rfl, htotal.symm⟩
        rintro rfl
        exact hne rfl
      · cases h
  · rintro (⟨rfl, hd⟩ | ⟨cs, hne, rfl, htotal⟩)
    · exact congrArg Except.ok (Duration.ext hd.symm)
    · have hlt : 0 + total cs < wordBound := by
        rw [Nat.zero_add, htotal]
        exact d.nanos_lt_wordBound
      simp only [if_neg (rowChars_ne_nil hne), if_neg (rowChars_ne_zero hne), sum_rowChars cs hlt,
        Nat.zero_add, htotal, dif_pos d.nanos_lt]

/-- A row of components is read as their sum. -/
theorem parse_rowChars_eq_ok_iff {cs : List Component} {d : Duration} :
    parse (String.ofList (rowChars cs)) = .ok d ↔ cs ≠ [] ∧ total cs = d.nanos := by
  rw [parse_eq_ok_iff, String.toList_ofList, trim_rowChars]
  constructor
  · rintro (⟨hzero, -⟩ | ⟨cs', hne, hcs, htotal⟩)
    · rcases eq_or_ne cs [] with rfl | hne
      · cases hzero
      · exact absurd hzero (rowChars_ne_zero hne)
    · rw [rowChars_injective hcs]
      exact ⟨hne, htotal⟩
  · rintro ⟨hne, htotal⟩
    exact .inr ⟨cs, hne, rfl, htotal⟩

/-- A duration is refused as empty if there is nothing but white space, and otherwise for
a fault in it. -/
theorem parse_eq_error {input : String} {e : Error} (h : parse input = .error e) :
    (e = .empty ∧ trim input.toList = []) ∨
      (∃ fault, e = .invalid input fault) ∧ trim input.toList ≠ [] := by
  unfold parse at h
  simp only at h
  split at h
  · next hnil =>
    cases h
    exact .inl ⟨rfl, hnil⟩
  next hne =>
  refine .inr ⟨?_, hne⟩
  split at h
  · cases h
  · split at h
    · cases h
      exact ⟨_, rfl⟩
    · split at h
      · cases h
      · cases h
        exact ⟨_, rfl⟩

/-- The texts that are read as durations, up to the white space around them.  Nothing is left
of an empty text; a bare zero and a row of components are read if the length that they denote
is in range, which is then the result; everything else is refused for a fault.  No text is a
row in two ways, the components of a row may stand in any order, and what is computed
unchecked stays below the bound. -/
theorem parse_language (input : String) :
    (parse input = .error .empty ↔ trim input.toList = []) ∧
    (∀ d, parse input = .ok d ↔ (trim input.toList = ['0'] ∧ d.nanos = 0) ∨
      ∃ cs : List Component, cs ≠ [] ∧ trim input.toList = rowChars cs ∧ total cs = d.nanos) ∧
    ((∃ d, parse input = .ok d) ↔ trim input.toList = ['0'] ∨
      ∃ cs : List Component, cs ≠ [] ∧ trim input.toList = rowChars cs ∧ total cs < nanosBound) ∧
    (∀ e, parse input = .error e → e = .empty ∨ ∃ fault, e = .invalid input fault) ∧
    Function.Injective rowChars ∧
    (∀ cs cs' : List Component, cs.Perm cs' → ∀ d,
      parse (String.ofList (rowChars cs)) = .ok d ↔
        parse (String.ofList (rowChars cs')) = .ok d) ∧
    ∀ (c : Component) (ds : List Char), ds <+: c.cut →
      value ds < wordBound ∧ 10 ^ ds.length < wordBound ∧ value ds * c.scale < wordBound := by
  refine ⟨⟨?_, ?_⟩, fun d => parse_eq_ok_iff, ⟨?_, ?_⟩, ?_, rowChars_injective, ?_,
    fun c ds => c.unchecked_lt⟩
  · intro h
    rcases parse_eq_error h with ⟨-, hnil⟩ | ⟨⟨_, hfault⟩, -⟩
    · exact hnil
    · cases hfault
  · intro hnil
    simp only [parse, if_pos hnil]
  · rintro ⟨d, hd⟩
    rcases parse_eq_ok_iff.1 hd with ⟨hzero, -⟩ | ⟨cs, hne, hcs, htotal⟩
    · exact .inl hzero
    · exact .inr ⟨cs, hne, hcs, htotal ▸ d.nanos_lt⟩
  · rintro (hzero | ⟨cs, hne, hcs, hlt⟩)
    · exact ⟨Duration.zero, parse_eq_ok_iff.2 (.inl ⟨hzero, rfl⟩)⟩
    · exact ⟨⟨total cs, hlt⟩, parse_eq_ok_iff.2 (.inr ⟨cs, hne, hcs, rfl⟩)⟩
  · intro e he
    rcases parse_eq_error he with ⟨hempty, -⟩ | ⟨hfault, -⟩
    · exact .inl hempty
    · exact .inr hfault
  · intro cs cs' hperm d
    have hnil : cs = [] ↔ cs' = [] := by
      rw [← List.length_eq_zero_iff, hperm.length_eq, List.length_eq_zero_iff]
    rw [parse_rowChars_eq_ok_iff, parse_rowChars_eq_ok_iff, total_perm hperm, ne_eq, ne_eq, hnil]

end AlertRules.Duration
