/-
AlertRules/Proofs/Yaml/Scalar.lean

What is written for a text, whichever style it takes.  A style is chosen only for texts that
it can show (`of_styleOf_plain` and the others).  All that is written is printable
(`isPrintable_of_mem_write`).  A simple key has no breaks, and is short enough to be found as
a key when its colon comes (`length_write_of_isSimpleKey`).
-/
import AlertRules.Proofs.Yaml.Block
import AlertRules.Proofs.Yaml.Plain
import AlertRules.Proofs.Yaml.Quoted

namespace AlertRules.Yaml

open Quoted (writeSingleFrom writeChar)

namespace Scalar

variable {cs : List Char} {c : Char} {n : Nat}

/-! ### Styles -/

theorem of_styleOf_plain (h : styleOf cs = .plain) : cs ≠ [] ∧ Plain.isWritable cs = true := by
  unfold styleOf at h
  split at h
  · split at h <;> cases h
  · split at h
    · next hplain =>
      simp only [Bool.and_eq_true, Bool.not_eq_true'] at hplain
      refine ⟨?_, hplain.2⟩
      rintro rfl
      cases hplain.1
    · split at h <;> cases h

theorem of_styleOf_single (h : styleOf cs = .single) : '\n' ∉ cs ∧ fitsSingle cs = true := by
  unfold styleOf at h
  split at h
  · split at h <;> cases h
  · next hfeed =>
    split at h
    · cases h
    · split at h
      · next hsingle => exact ⟨fun hmem => hfeed (List.contains_iff_mem.2 hmem), hsingle⟩
      · cases h

theorem of_styleOf_literal (h : styleOf cs = .literal) : '\n' ∈ cs ∧ fitsLiteral cs = true := by
  unfold styleOf at h
  split at h
  · next hfeed =>
    split at h
    · next hliteral => exact ⟨List.contains_iff_mem.1 hfeed, hliteral⟩
    · cases h
  · split at h
    · cases h
    · split at h <;> cases h

theorem isPrintable_of_fitsLiteral (h : fitsLiteral cs = true) :
    ∀ c ∈ cs, isPrintable c = true := by
  simp only [fitsLiteral, Bool.and_eq_true, List.all_eq_true] at h
  exact h.1.1

theorem isPrintable_of_fitsSingle (h : fitsSingle cs = true) :
    ∀ c ∈ cs, isPrintable c = true := by
  simp only [fitsSingle, Bool.and_eq_true, List.all_eq_true] at h
  exact h.1.1

theorem isPrintable_of_isWritable (h : Plain.isWritable cs = true) :
    ∀ c ∈ cs, isPrintable c = true := by
  simp only [Plain.isWritable, Bool.and_eq_true, List.all_eq_true] at h
  exact h.1.1.1.1.1

/-! ### Written characters -/

theorem mem_writeSingleFrom {atBreak : Bool} (h : c ∈ writeSingleFrom n atBreak cs) :
    c ∈ cs ∨ c = ' ' ∨ c = '\'' := by
  have hspaces : ∀ {b : Bool}, c ∈ (if b = true then List.replicate n ' ' else []) → c = ' ' := by
    intro b hc
    split at hc
    · exact List.eq_of_mem_replicate hc
    · cases hc
  induction cs generalizing atBreak with
  | nil =>
    exact .inr (.inl (hspaces h))
  | cons d r ih =>
    rw [writeSingleFrom] at h
    split at h
    · rcases List.mem_cons.1 h with rfl | h
      · exact .inl (.head _)
      · exact (ih h).imp_left (.tail _)
    · rcases List.mem_append.1 h with h | h
      · rcases List.mem_append.1 h with h | h
        · exact .inr (.inl (hspaces h))
        · split at h
          · simp at h
            exact .inr (.inr h)
          · rw [List.mem_singleton.1 h]
            exact .inl (.head _)
      · exact (ih h).imp_left (.tail _)

theorem mem_writeLines {atStart : Bool} (h : c ∈ Block.writeLines n atStart cs) :
    c ∈ cs ∨ c = ' ' := by
  induction cs generalizing atStart with
  | nil => cases h
  | cons d r ih =>
    rw [Block.writeLines_cons, Block.writeLineChar] at h
    rcases List.mem_append.1 h with h | h
    · split at h
      · rw [List.mem_singleton.1 h]
        exact .inl (.head _)
      · rcases List.mem_append.1 h with h | h
        · split at h
          · exact .inr (List.eq_of_mem_replicate h)
          · cases h
        · rw [List.mem_singleton.1 h]
          exact .inl (.head _)
    · exact (ih h).imp_left (.tail _)

theorem isPrintable_of_mem_indicators (h : c ∈ Block.indicators cs) : isPrintable c = true := by
  have hall : (Block.indicators cs).all isPrintable = true := by
    unfold Block.indicators
    split <;> cases Block.chompingOf cs <;> rfl
  exact List.all_eq_true.1 hall c h

/-- What holds of the characters of a text, where it is not escaped, and of all characters
that are printable and no breaks, holds of all that is written for the text. -/
theorem of_mem_write {p : Char → Prop} (hcs : styleOf cs ≠ .double → ∀ c ∈ cs, p c)
    (hprint : ∀ d, isPrintable d = true → isBreak d = false → p d)
    (hfeed : styleOf cs = .literal → p '\n') (h : c ∈ write n cs) : p c := by
  unfold write at h
  split at h
  · next hstyle => exact hcs (by rw [hstyle]; nofun) c h
  · next hstyle =>
    rcases List.mem_append.1 h with h | h
    · rcases List.mem_cons.1 h with rfl | h
      · exact hprint _ rfl rfl
      · rcases mem_writeSingleFrom h with h | rfl | rfl
        · exact hcs (by rw [hstyle]; nofun) c h
        · exact hprint _ rfl rfl
        · exact hprint _ rfl rfl
    · rw [List.mem_singleton.1 h]
      exact hprint _ rfl rfl
  · rcases List.mem_append.1 h with h | h
    · rcases List.mem_cons.1 h with rfl | h
      · exact hprint _ rfl rfl
      · obtain ⟨d, -, hd⟩ := List.mem_flatMap.1 h
        have hc := Quoted.mem_writeChar hd
        exact hprint c hc.1 hc.2
    · rw [List.mem_singleton.1 h]
      exact hprint _ rfl rfl
  · next hstyle =>
    rcases List.mem_append.1 h with h | h
    · rcases List.mem_cons.1 h with rfl | h
      · exact hprint _ rfl rfl
      · exact hprint c (isPrintable_of_mem_indicators h) (Block.not_isBreak_of_mem_indicators h)
    · rcases List.mem_cons.1 h with rfl | h
      · exact hfeed hstyle
      · rcases mem_writeLines h with h | rfl
        · exact hcs (by rw [hstyle]; nofun) c h
        · exact hprint _ rfl rfl

/-- All that is written for a text is printable. -/
theorem isPrintable_of_mem_write (h : c ∈ write n cs) : isPrintable c = true := by
  refine of_mem_write ?_ (fun _ hd _ => hd) (fun _ => rfl) h
  intro hdouble d hd
  cases hstyle : styleOf cs with
  | plain => exact isPrintable_of_isWritable (of_styleOf_plain hstyle).2 d hd
  | single => exact isPrintable_of_fitsSingle (of_styleOf_single hstyle).2 d hd
  | double => exact absurd hstyle hdouble
  | literal => exact isPrintable_of_fitsLiteral (of_styleOf_literal hstyle).2 d hd

/-- What is written for a text starts a token. -/
theorem startsToken_write (n : Nat) (cs more : List Char) :
    StartsToken (write n cs ++ more) ∧ write n cs ≠ [] := by
  unfold write
  split
  · next hstyle =>
    obtain ⟨hne, hwritable⟩ := of_styleOf_plain hstyle
    refine ⟨?_, hne⟩
    obtain ⟨c, r, rfl⟩ := List.exists_cons_of_ne_nil hne
    have hprint := isPrintable_of_isWritable hwritable c (.head _)
    simp only [Plain.isWritable, Bool.and_eq_true, Bool.not_eq_true', List.any_eq_false,
      bne_iff_ne, ne_eq, List.head?_cons, Option.some.injEq] at hwritable
    obtain ⟨⟨⟨⟨⟨-, hbreak⟩, hspace⟩, -⟩, hstart⟩, -⟩ := hwritable
    refine ⟨?_, Bool.eq_false_iff.2 (hbreak c (.head _)), ?_, ?_⟩
    · exact Bool.eq_false_iff.2 fun h => hspace (eq_space_of_isBlank hprint h)
    · rintro rfl
      cases hstart
    · exact ne_of_isPrintable hprint (by decide)
  · exact ⟨⟨rfl, rfl, by decide, by decide⟩, List.cons_ne_nil _ _⟩
  · exact ⟨⟨rfl, rfl, by decide, by decide⟩, List.cons_ne_nil _ _⟩
  · exact ⟨⟨rfl, rfl, by decide, by decide⟩, List.cons_ne_nil _ _⟩

/-! ### Simple keys -/

theorem utf8Length_cons (c : Char) (r : List Char) :
    utf8Length (c :: r) = c.utf8Size + utf8Length r := by
  have hadd : ∀ (n : Nat), r.foldl (fun n c => n + c.utf8Size) n = n + utf8Length r := by
    intro n
    unfold utf8Length
    induction r generalizing n with
    | nil => rfl
    | cons d r ih =>
      rw [List.foldl_cons, List.foldl_cons, ih, ih (0 + d.utf8Size)]
      omega
  rw [utf8Length, List.foldl_cons, hadd]
  omega

theorem length_le_utf8Length (cs : List Char) : cs.length ≤ utf8Length cs := by
  induction cs with
  | nil => exact Nat.zero_le _
  | cons c r ih =>
    have hsize := c.utf8Size_pos
    rw [utf8Length_cons, List.length_cons]
    omega

theorem length_writeSingleFrom (hline : ∀ c ∈ cs, isBreak c = false) :
    (writeSingleFrom n false cs).length ≤ 2 * cs.length := by
  induction cs with
  | nil => exact Nat.le_refl 0
  | cons c r ih =>
    rw [List.forall_mem_cons] at hline
    have hr := ih hline.2
    rw [writeSingleFrom, if_neg (by simp [hline.1]), if_neg Bool.false_ne_true, List.nil_append,
      List.length_append, List.length_cons]
    split
    · rw [List.length_cons, List.length_singleton]
      omega
    · rw [List.length_singleton]
      omega

theorem length_writeChar (c : Char) : (writeChar c).length ≤ 4 * c.utf8Size := by
  have hsize := c.utf8Size_pos
  unfold Quoted.writeChar
  split
  · obtain ⟨e, he, hescape⟩ := Quoted.exists_isEscape c
    have hshort := hescape.short
    rw [he, List.length_cons]
    omega
  · rw [List.length_singleton]
    omega

theorem length_flatMap_writeChar (cs : List Char) :
    (cs.flatMap writeChar).length ≤ 4 * utf8Length cs := by
  induction cs with
  | nil => exact Nat.le_refl 0
  | cons c r ih =>
    have hc := length_writeChar c
    rw [List.flatMap_cons, List.length_append, utf8Length_cons]
    omega

theorem of_isSimpleKey (h : isSimpleKey cs = true) :
    (∀ c ∈ cs, isBreak c = false) ∧ utf8Length cs ≤ 128 := by
  simp only [isSimpleKey, Bool.and_eq_true, Bool.not_eq_true', List.any_eq_false,
    decide_eq_true_eq] at h
  exact ⟨fun c hc => Bool.eq_false_iff.2 (h.1 c hc), h.2⟩

theorem styleOf_ne_literal (h : ∀ c ∈ cs, isBreak c = false) : styleOf cs ≠ .literal := by
  intro hstyle
  exact absurd (h '\n' (of_styleOf_literal hstyle).1) nofun

/-- A text without breaks is written without breaks. -/
theorem not_isBreak_of_mem_write (hline : ∀ c ∈ cs, isBreak c = false) (h : c ∈ write n cs) :
    isBreak c = false :=
  of_mem_write (p := fun d => isBreak d = false) (fun _ => hline) (fun _ _ hd => hd)
    (fun hstyle => absurd hstyle (styleOf_ne_literal hline)) h

/-- A simple key is within the reach of its colon. -/
theorem length_write_of_isSimpleKey (h : isSimpleKey cs = true) : (write n cs).length ≤ 1024 := by
  obtain ⟨hline, hbytes⟩ := of_isSimpleKey h
  have hlength := length_le_utf8Length cs
  unfold write
  split
  · omega
  · have hsingle := length_writeSingleFrom (n := n) hline
    rw [Quoted.writeSingle, List.length_append, List.length_cons, List.length_singleton]
    omega
  · have hdouble := length_flatMap_writeChar cs
    rw [Quoted.writeDouble, List.length_append, List.length_cons, List.length_singleton]
    omega
  · next hstyle => exact absurd hstyle (styleOf_ne_literal hline)

end Scalar

end AlertRules.Yaml
