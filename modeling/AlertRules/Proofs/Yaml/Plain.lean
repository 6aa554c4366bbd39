/-
AlertRules/Proofs/Yaml/Plain.lean

Plain scalars are read back.  A text that can be written plainly is taken in whole, blanks
and all (`read?_isWritable`); what ends it is the colon behind a key (`read?_colon`) or the
end of its line, if the next line is less indented (`read?_lineEnd`).
-/
import AlertRules.Proofs.Yaml.Char
import AlertRules.Yaml.Plain

namespace AlertRules.Yaml.Plain

variable {indent : Nat} {m : Mark} {acc rest : List Char}

/-- What follows `d` does not end the scalar, neither by itself nor behind the blanks `p`. -/
theorem goesOn_of_endsEarly {c d : Char} {r p : List Char}
    (hearly : endsEarly (d :: c :: r) = false)
    (hp : p ≠ [] → d = ' ' ∧ 0 < m.column ∧ indent ≤ m.column) (rest : List Char) :
    (!(Pending.blanks p).isEmpty && stopsAfterSpace false indent m (c :: (r ++ rest))) = false ∧
      stopsAt false c (r ++ rest) = false ∧ endsEarly (c :: r) = false := by
  have hpair : (((c :: r).head? == some ':' && startsBlank ((c :: r).drop 1)) ||
      (isBlank d && (c :: r).head? == some '#')) = false ∧ endsEarly (c :: r) = false :=
    Bool.or_eq_false_iff.1 hearly
  obtain ⟨hcolon, hsign⟩ := Bool.or_eq_false_iff.1 hpair.1
  refine ⟨?_, ?_, hpair.2⟩
  · by_cases hne : p = []
    · rw [hne]
      rfl
    · obtain ⟨rfl, hpos, hle⟩ := hp hne
      have hinside : ¬ m.column < indent := Nat.not_lt.2 hle
      have hsign' : c ≠ '#' := by
        rintro rfl
        cases hsign
      simp [stopsAfterSpace, hinside, Nat.ne_of_gt hpos, hsign']
  · by_cases hc : c = ':'
    · subst hc
      have hr' : startsBlank r = false := hcolon
      simp [stopsAt, startsBlank_append hr']
    · simp [stopsAt, hc]

/-- A text without breaks that goes on behind the character `d` is taken in, with the blanks
`p` before it. -/
theorem read?_more {cs p : List Char} {d : Char}
    (hchars : ∀ c ∈ cs, isPrintable c = true ∧ isBreak c = false)
    (hearly : endsEarly (d :: cs) = false) (hlast : (d :: cs).getLast? ≠ some ' ')
    (hp : p ≠ [] → d = ' ' ∧ 0 < m.column ∧ indent ≤ m.column)
    (hcolumn : indent ≤ m.column + 1) :
    read? false indent m (.blanks p) acc (cs ++ rest) =
      read? false indent (m.past cs) .none (cs.reverse ++ p ++ acc) rest := by
  induction cs generalizing m p acc d with
  | nil =>
    cases p with
    | nil => rfl
    | cons b bs =>
      rw [(hp nofun).1] at hlast
      exact absurd rfl hlast
  | cons c r ih =>
    rw [List.forall_mem_cons] at hchars
    obtain ⟨⟨hprint, hbreak⟩, hr⟩ := hchars
    have hafter : m.after c = m.skip 1 := Mark.after_of_not_isBreak hbreak m
    obtain ⟨hgoes, hstop, hearly'⟩ := goesOn_of_endsEarly hearly hp rest
    have hlast' : (c :: r).getLast? ≠ some ' ' := by
      rwa [List.getLast?_cons_cons] at hlast
    rw [List.cons_append, read?]
    by_cases hblank : isBlank c = true
    · obtain rfl := eq_space_of_isBlank hprint hblank
      rw [if_pos hblank, if_neg (fun h => absurd h.1 (by decide)), hafter, Pending.addBlank,
        ih hr hearly' hlast' (fun _ => ⟨rfl, Nat.succ_pos _, hcolumn⟩)
          (Nat.le_succ_of_le hcolumn),
        Mark.past_cons, hafter]
      simp
    · have hstray : isStrayColon false c (r ++ rest) = false := rfl
      -- the character ends the run of blanks, which it takes in
      have hgoesOn : read? false indent (m.skip 1) .none
          (c :: ((Pending.blanks p).fold.reverse ++ acc)) (r ++ rest) = _ :=
        ih hr hearly' hlast' (fun h => absurd rfl h) (Nat.le_succ_of_le hcolumn)
      simp only [if_neg hblank, hbreak, hgoes, hstray, hstop, Bool.false_eq_true, if_false]
      rw [hafter, hgoesOn, Mark.past_cons, hafter]
      simp [Pending.fold]

/-- A text that can be written plainly is taken in whole. -/
theorem read?_isWritable {cs : List Char} (h : isWritable cs = true)
    (hcolumn : indent ≤ m.column + 1) :
    read? false indent m .none [] (cs ++ rest) =
      read? false indent (m.past cs) .none cs.reverse rest := by
  simp only [isWritable, Bool.and_eq_true, Bool.not_eq_true', List.all_eq_true,
    List.any_eq_false, bne_iff_ne, ne_eq] at h
  obtain ⟨⟨⟨⟨⟨hprint, hbreak⟩, -⟩, hlast⟩, hstart⟩, hearly⟩ := h
  have hchars : ∀ c ∈ cs, isPrintable c = true ∧ isBreak c = false := fun c hc =>
    ⟨hprint c hc, Bool.eq_false_iff.2 (hbreak c hc)⟩
  -- any character that is no blank may be thought of before the first
  have hearly' : endsEarly ('a' :: cs) = false := by
    refine Bool.or_eq_false_iff.2 ⟨?_, hearly⟩
    cases cs with
    | nil => rfl
    | cons c r =>
      unfold startsOtherwise at hstart
      by_cases hc : c = ':'
      · subst hc
        simp only [Bool.or_eq_false_iff] at hstart
        simpa using hstart.1.1.2
      · simp [hc, isBlank]
  have hlast' : ('a' :: cs).getLast? ≠ some ' ' := by
    cases cs with
    | nil => decide
    | cons c r => rwa [List.getLast?_cons_cons]
  have hread : read? false indent m .none [] (cs ++ rest) = _ :=
    read?_more hchars hearly' hlast' (fun h => absurd rfl h) hcolumn
  rw [hread, List.append_nil, List.append_nil]

theorem read?_colon (h : startsBlank rest = true) :
    read? false indent m .none acc (':' :: rest) =
      some ⟨acc.reverse, m, ':' :: rest, false⟩ := by
  have hstop : stopsAt false ':' rest = true := by simp [stopsAt, h]
  have hstray : isStrayColon false ':' rest = false := rfl
  have hblank : isBlank ':' = false := rfl
  have hbreak : isBreak ':' = false := rfl
  simp [read?, hblank, hbreak, hstray, hstop, Pending.none, Pending.isBreaks]

/-- Behind its end, the indentation of the next line belongs to a scalar. -/
theorem read?_lineEnd {n : Nat} (hn : n < indent) (hrest : StartsToken rest) :
    read? false indent m .none acc ('\n' :: (List.replicate n ' ' ++ rest)) =
      some ⟨acc.reverse, m.past ('\n' :: List.replicate n ' '), rest, true⟩ := by
  have hspaces : ∀ {m' : Mark} {k : Nat},
      read? false indent m' (.breaks (some '\n') []) acc (List.replicate k ' ' ++ rest) =
        read? false indent (m'.past (List.replicate k ' ')) (.breaks (some '\n') []) acc rest := by
    intro m' k
    induction k generalizing m' with
    | zero => rfl
    | succ k ih =>
      have hblank : isBlank ' ' = true := rfl
      rw [List.replicate_succ, List.cons_append, read?, if_pos hblank,
        if_neg (fun h => absurd h.1 (by decide)), Mark.past_cons]
      exact ih
  have hbreak : read? false indent m .none acc ('\n' :: (List.replicate n ' ' ++ rest)) =
      read? false indent (m.after '\n') (.breaks (some '\n') []) acc
        (List.replicate n ' ' ++ rest) := by
    rw [read?]
    rfl
  have hend : (m.past ('\n' :: List.replicate n ' ')).column < indent := by
    rw [Mark.past_indentation rfl]
    exact hn
  rw [hbreak, hspaces, ← Mark.past_cons]
  generalize m.past ('\n' :: List.replicate n ' ') = m' at hend ⊢
  cases rest with
  | nil => rfl
  | cons c r =>
    obtain ⟨hcblank, hcbreak, -, -⟩ := hrest
    have hstop : stopsAfterSpace false indent m' (c :: r) = true := by
      simp [stopsAfterSpace, hend]
    have hpending : (Pending.breaks (some '\n') []).isEmpty = false := rfl
    simp [read?, hcblank, hcbreak, hpending, hstop, Pending.isBreaks]

end AlertRules.Yaml.Plain
