/-
AlertRules/Proofs/Yaml/Mapping.lean

The tokens of written mappings.  `Reads` says of lines at a column that they come to their
tokens wherever a mapping is open or opens at the column, and whatever follows in a line no
deeper than that.  It holds of an entry (`reads_entry`), of lines below lines
(`Reads.append`), of a mapping inside a mapping (`Reads.inside`) and of a sequence
(`reads_items`), so by composition of a document, whose lines stand at column zero
(`scan?_of_reads`).
-/
import Mathlib.Data.List.Forall2
import AlertRules.Proofs.Yaml.Lexer

namespace AlertRules.Yaml

open Scalar (styleOf write lineEnd)
open Lexer (Step Opens scalarToken unwind unwind_of_le inBlock)

/-- The lines, from the column on, are read as the tokens. -/
structure Reads (column : Nat) (text : List Char) (ts : List Token) : Prop where
  starts : ∀ more, StartsToken (text ++ more)
  steps : ∀ {s : Lexer} {columns below columns' : List Nat} {tokens tokens' tokens'' : List Token}
    {i : Nat} {rest : List Char},
    s.Resumes column (text ++ (List.replicate i ' ' ++ rest)) columns tokens →
    Opens column columns tokens below tokens' → i ≤ column → StartsToken rest →
    unwind i (column :: below) (ts.reverse ++ tokens') = (columns', tokens'') →
    ∃ u, Relation.ReflTransGen Step s u ∧ u.Resumes i rest columns' tokens''

variable {column : Nat} {text text' : List Char} {ts ts' : List Token}

/-! ### Lines -/

theorem unwind_self (column : Nat) (below : List Nat) (tokens : List Token) :
    unwind column (column :: below) tokens = (column :: below, tokens) := by
  refine unwind_of_le ?_
  rintro c ⟨⟩
  exact Nat.le_refl column

theorem reads_entry (column : Nat) (k v : List Char) :
    Reads column (Scalar.writeEntry column k v)
      [.key, scalarToken k, .value, scalarToken v] := by
  refine ⟨?_, fun hs hopens hi hrest hunwind => Lexer.steps_entry hs hopens hi hrest hunwind⟩
  intro more
  unfold Scalar.writeEntry
  split
  · rw [List.append_assoc, List.append_assoc, List.append_assoc]
    exact (Scalar.startsToken_write _ _ _).1
  · exact ⟨rfl, rfl, by decide, by decide⟩

/-- Lines below lines, at the same column. -/
theorem Reads.append (h : Reads column text ts) (h' : Reads column text' ts') :
    Reads column (text ++ (List.replicate column ' ' ++ text')) (ts ++ ts') := by
  refine ⟨fun more => List.append_assoc text _ more ▸ h.starts _, ?_⟩
  intro s columns below columns' tokens tokens' tokens'' i rest hs hopens hi hrest hunwind
  rw [List.append_assoc, List.append_assoc] at hs
  obtain ⟨u, hsteps, hu⟩ := h.steps hs hopens (Nat.le_refl column) (h'.starts _)
    (unwind_self column below _)
  rw [List.reverse_append, List.append_assoc] at hunwind
  obtain ⟨u', hsteps', hu'⟩ := h'.steps hu (.here below _) hi hrest hunwind
  exact ⟨u', hsteps.trans hsteps', hu'⟩

/-- A mapping inside a mapping, below its key. -/
theorem Reads.inside {k : List Char} (hk : Scalar.isSimpleKey k = true)
    (h : Reads (column + 2) text ts) :
    Reads column (write (column + 2) k ++ ':' :: '\n' :: (List.replicate (column + 2) ' ' ++ text))
      (.key :: scalarToken k :: .value :: .blockMappingStart :: ts ++ [.blockEnd]) := by
  refine ⟨fun more => ?_, ?_⟩
  · rw [List.append_assoc]
    exact (Scalar.startsToken_write _ _ _).1
  intro s columns below columns' tokens tokens' tokens'' i rest hs hopens hi hrest hunwind
  have htext : write (column + 2) k ++
      ':' :: '\n' :: (List.replicate (column + 2) ' ' ++ text) ++ (List.replicate i ' ' ++ rest) =
        write (column + 2) k ++ ':' :: '\n' :: (List.replicate (column + 2) ' ' ++
          (text ++ (List.replicate i ' ' ++ rest))) := by
    simp
  rw [htext] at hs
  obtain ⟨m, -, hsteps⟩ := Lexer.steps_key hs hopens hk (Nat.succ_pos _) rfl
  have hdeeper : ∀ c ∈ (column :: below).head?, c < column + 2 := by
    rintro c ⟨⟩
    omega
  have hopen : unwind (column + 2) (column :: below)
      (.value :: scalarToken k :: .key :: tokens') = (column :: below, _) :=
    unwind_of_le fun c hc => Nat.le_of_lt (hdeeper c hc)
  have hresumes : (inBlock ('\n' :: (List.replicate (column + 2) ' ' ++
      (text ++ (List.replicate i ' ' ++ rest)))) m (column :: below) false _).Resumes _ _ _ _ :=
    Lexer.resumes_lineEnd (h.starts _) hopen
  -- the inner mapping ends where the next line is less deep
  have hshallow : i < column + 2 := Nat.lt_of_le_of_lt hi (by omega)
  have hend : unwind i ((column + 2) :: column :: below) (ts.reverse ++ .blockMappingStart ::
      .value :: scalarToken k :: .key :: tokens') = (columns', tokens'') := by
    rw [unwind, if_pos hshallow]
    simpa using hunwind
  obtain ⟨u, hsteps', hu⟩ := h.steps hresumes (.deeper _ hdeeper) (Nat.le_of_lt hshallow) hrest hend
  exact ⟨u, hsteps.trans hsteps', hu⟩

/-! ### Sequences -/

/-- A hyphen starts an item, in whose column a mapping may open. -/
theorem Lexer.step_hyphen {s : Lexer} {below : List Nat} {tokens : List Token}
    (hs : s.Resumes column ('-' :: ' ' :: text) (column :: below) tokens)
    (htext : StartsToken text) :
    ∃ u, Step s u ∧ u.Resumes (column + 2) text (column :: below) (.blockEntry :: tokens) := by
  obtain ⟨m, hm, hstands⟩ := hs
  have hentry : (inBlock ('-' :: ' ' :: text) m (column :: below) true tokens).next? =
      some (inBlock (' ' :: text) (m.skip 1) (column :: below) true (.blockEntry :: tokens)) := by
    refine (token?_hyphen _ _).trans ?_
    have hroll : (inBlock ('-' :: ' ' :: text) m (column :: below) true tokens).roll m.column
        tokens.length .blockSequenceStart =
          inBlock ('-' :: ' ' :: text) m (column :: below) true tokens := by
      have hopen : ¬ ((!false && (column :: below).head?.all (· < m.column)) = true) := by simp [hm]
      exact if_neg hopen
    show (((inBlock ('-' :: ' ' :: text) m (column :: below) true tokens).roll m.column
      tokens.length .blockSequenceStart).dropCandidate?).bind _ = _
    rw [hroll]
    rfl
  have hle : ∀ c ∈ (column :: below).head?, c ≤ (m.skip 1).column := by
    rintro c ⟨⟩
    rw [← hm]
    exact Nat.le_succ _
  refine ⟨_, hstands.step hentry (Nat.lt_succ_self _), (m.skip 1).skip 1, ?_,
    stands_space hle htext⟩
  rw [← hm]
  rfl

/-- An item whose lines are a mapping, behind its hyphen. -/
theorem Reads.item (h : Reads (column + 2) text ts) {s : Lexer} {below : List Nat}
    {tokens : List Token} {rest : List Char}
    (hs : s.Resumes column ('-' :: ' ' :: (text ++ (List.replicate column ' ' ++ rest)))
      (column :: below) tokens) (hrest : StartsToken rest) :
    ∃ u, Relation.ReflTransGen Step s u ∧ u.Resumes column rest (column :: below)
      (.blockEnd :: ts.reverse ++ .blockMappingStart :: .blockEntry :: tokens) := by
  obtain ⟨u, hstep, hu⟩ := Lexer.step_hyphen hs (h.starts _)
  have hdeeper : ∀ c ∈ (column :: below).head?, c < column + 2 := by
    rintro c ⟨⟩
    omega
  -- the item ends where the next hyphen, or what follows the sequence, is less deep
  have hshallow : column < column + 2 := by omega
  have hend : unwind column ((column + 2) :: column :: below)
      (ts.reverse ++ .blockMappingStart :: .blockEntry :: tokens) =
        (column :: below,
          .blockEnd :: (ts.reverse ++ .blockMappingStart :: .blockEntry :: tokens)) := by
    rw [unwind, if_pos hshallow]
    exact unwind_self column below _
  obtain ⟨u', hsteps, hu'⟩ := h.steps hu (.deeper _ hdeeper) (Nat.le_of_lt hshallow) hrest hend
  exact ⟨u', .head hstep hsteps, hu'⟩

/-- The tokens of items, of which those of each are given. -/
def itemTokens (tss : List (List Token)) : List Token :=
  tss.flatMap fun ts => .blockEntry :: .blockMappingStart :: ts ++ [.blockEnd]

theorem steps_items {texts : List (List Char)} {tss : List (List Token)}
    (h : List.Forall₂ (Reads (column + 2)) texts tss) {s : Lexer} {below : List Nat}
    {tokens : List Token} {rest : List Char}
    (hs : s.Resumes column (texts.flatMap (fun text => '-' :: ' ' :: (text ++
      List.replicate column ' ')) ++ rest) (column :: below) tokens) (hrest : StartsToken rest) :
    ∃ u, Relation.ReflTransGen Step s u ∧ u.Resumes column rest (column :: below)
      ((itemTokens tss).reverse ++ tokens) := by
  induction h generalizing s tokens with
  | nil => exact ⟨s, .refl, hs⟩
  | @cons text ts texts tss htext hmore ih =>
    have hjoin : (text :: texts).flatMap (fun text => '-' :: ' ' :: (text ++
        List.replicate column ' ')) ++ rest = '-' :: ' ' :: (text ++ (List.replicate column ' ' ++
          (texts.flatMap (fun text => '-' :: ' ' :: (text ++ List.replicate column ' ')) ++
            rest))) := by
      simp
    have hstarts : StartsToken (texts.flatMap (fun text => '-' :: ' ' :: (text ++
        List.replicate column ' ')) ++ rest) := by
      cases hmore with
      | nil => exact hrest
      | cons => exact ⟨rfl, rfl, by decide, by decide⟩
    rw [hjoin] at hs
    obtain ⟨u, hsteps, hu⟩ := htext.item hs hstarts
    obtain ⟨u', hsteps', hu'⟩ := ih hu
    refine ⟨u', hsteps.trans hsteps', ?_⟩
    simpa [itemTokens] using hu'

/-- Below its key, a sequence at column zero. -/
theorem reads_items {k : List Char} (hk : Scalar.isSimpleKey k = true)
    {texts : List (List Char)} {tss : List (List Token)} (hne : texts ≠ [])
    (h : List.Forall₂ (Reads 2) texts tss) :
    Reads 0 (write 2 k ++ ':' :: '\n' :: texts.flatMap fun text => '-' :: ' ' :: text)
      (.key :: scalarToken k :: .value :: itemTokens tss) := by
  refine ⟨fun more => ?_, ?_⟩
  · rw [List.append_assoc]
    exact (Scalar.startsToken_write _ _ _).1
  intro s columns below columns' tokens tokens' tokens'' i rest hs hopens hi hrest hunwind
  obtain rfl : i = 0 := Nat.le_zero.1 hi
  have hjoin : write 2 k ++ ':' :: '\n' :: texts.flatMap (fun text => '-' :: ' ' :: text) ++
      (List.replicate 0 ' ' ++ rest) = write 2 k ++ ':' :: '\n' :: (List.replicate 0 ' ' ++
        (texts.flatMap (fun text => '-' :: ' ' :: (text ++ List.replicate 0 ' ')) ++ rest)) := by
    simp
  have hstarts : StartsToken
      (texts.flatMap (fun text => '-' :: ' ' :: (text ++ List.replicate 0 ' ')) ++ rest) := by
    cases texts with
    | nil => exact absurd rfl hne
    | cons => exact ⟨rfl, rfl, by decide, by decide⟩
  rw [hjoin] at hs
  obtain ⟨m, -, hsteps⟩ := Lexer.steps_key hs hopens hk (Nat.succ_pos _) rfl
  have hresumes : (inBlock _ m (0 :: below) false _).Resumes _ _ _ _ :=
    Lexer.resumes_lineEnd hstarts (unwind_self 0 below (.value :: scalarToken k :: .key :: tokens'))
  obtain ⟨u, hsteps', hu⟩ := steps_items h hresumes hrest
  rw [unwind_self, Prod.mk.injEq] at hunwind
  obtain ⟨rfl, rfl⟩ := hunwind
  refine ⟨u, hsteps.trans hsteps', ?_⟩
  simpa using hu

/-- Two brackets in the middle of a line are two tokens. -/
theorem Lexer.steps_brackets (m : Mark) (columns : List Nat) (tokens : List Token)
    (rest : List Char) (hcolumns : ∀ c ∈ columns.head?, c ≤ m.column) :
    ∃ m' : Mark, Relation.ReflTransGen Step
      (inBlock (' ' :: '[' :: ']' :: rest) m columns false tokens)
      (inBlock rest m' columns false (.flowSequenceEnd :: .flowSequenceStart :: tokens)) := by
  have hstands : (inBlock (' ' :: '[' :: ']' :: rest) m columns false tokens).Stands _ _ _ _ _ :=
    stands_space hcolumns ⟨rfl, rfl, by decide, by decide⟩
  -- for one token the lexer is inside a flow collection, which is empty
  let inside : Lexer :=
    { rest := ']' :: rest, mark := (m.skip 1).skip 1, columns := columns, keyAllowed := true,
      outer := [none], tokens := .flowSequenceStart :: tokens }
  have hopen : (inBlock ('[' :: ']' :: rest) (m.skip 1) columns false tokens).next? =
      some inside := token?_openBracket _ _
  have hclose : Step inside (inBlock rest (((m.skip 1).skip 1).skip 1) columns false
      (.flowSequenceEnd :: .flowSequenceStart :: tokens)) :=
    ⟨inside, rfl, token?_closeBracket inside rest, Nat.lt_succ_self _⟩
  exact ⟨_, .tail (.tail .refl (hstands.step hopen (Nat.lt_succ_self _))) hclose⟩

/-- Behind its key, a sequence without items. -/
theorem reads_noItems {k : List Char} (hk : Scalar.isSimpleKey k = true) :
    Reads 0 (write 2 k ++ ": []\n".toList)
      [.key, scalarToken k, .value, .flowSequenceStart, .flowSequenceEnd] := by
  refine ⟨fun more => ?_, ?_⟩
  · rw [List.append_assoc]
    exact (Scalar.startsToken_write _ _ _).1
  intro s columns below columns' tokens tokens' tokens'' i rest hs hopens hi hrest hunwind
  obtain rfl : i = 0 := Nat.le_zero.1 hi
  have htext : write 2 k ++ ": []\n".toList ++ (List.replicate 0 ' ' ++ rest) =
      write 2 k ++ ':' :: ' ' :: '[' :: ']' :: '\n' :: (List.replicate 0 ' ' ++ rest) := by
    simp
  rw [htext] at hs
  obtain ⟨m, hm, hsteps⟩ := Lexer.steps_key hs hopens hk (Nat.succ_pos _) rfl
  have hle : ∀ c ∈ (0 :: below).head?, c ≤ m.column := by
    rintro c ⟨⟩
    exact Nat.zero_le _
  obtain ⟨m', hsteps'⟩ := Lexer.steps_brackets m (0 :: below) _ _ hle
  exact ⟨_, hsteps.trans hsteps', Lexer.resumes_lineEnd hrest hunwind⟩

/-! ### Documents -/

/-- Where the text ends, the mapping that is open at column zero ends. -/
theorem Lexer.run?_of_resumes {s : Lexer} {tokens : List Token}
    (h : s.Resumes 0 [] [0] tokens) : s.run? = some (tokens.reverse ++ [.blockEnd]) := by
  obtain ⟨m, -, hstands⟩ := h
  obtain ⟨t, ht, hunroll⟩ := Option.map_eq_some_iff.1 hstands
  have hrest : t.rest = [] := (rest_unroll t).symm.trans (congrArg Lexer.rest hunroll)
  rw [run?, ht]
  simp only [hrest, hunroll]
  show some ((.blockEnd :: tokens).reverse) = _
  rw [List.reverse_cons]

/-- Lines at column zero, to the end of the text, are the tokens of one mapping. -/
theorem scan?_of_reads (h : Reads 0 text ts) (hprint : ∀ c ∈ text, isPrintable c = true) :
    Token.scan? text = some (.blockMappingStart :: ts ++ [.blockEnd]) := by
  have hallowed : text.all isAllowed = true :=
    List.all_eq_true.2 fun c hc => isAllowed_of_isPrintable (hprint c hc)
  have hstart : Lexer.Resumes { rest := text } 0 (text ++ (List.replicate 0 ' ' ++ [])) [] [] := by
    rw [List.replicate_zero, List.nil_append, List.append_nil]
    exact ⟨{}, rfl, Lexer.stands_of_skipFrom rfl
      (Lexer.skipFrom_startsToken (List.append_nil text ▸ h.starts [])) rfl rfl⟩
  obtain ⟨u, hsteps, hu⟩ := h.steps hstart (.deeper _ nofun) (Nat.le_refl 0) trivial
    (unwind_self 0 [] _)
  rw [Token.scan?, if_pos hallowed, unifyBreaks_of_isPrintable hprint, Lexer.run?_of_steps hsteps,
    Lexer.run?_of_resumes hu]
  simp

end AlertRules.Yaml
