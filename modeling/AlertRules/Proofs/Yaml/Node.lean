/-
AlertRules/Proofs/Yaml/Node.lean

From the tokens of a mapping back to its node.  `Parses` says that tokens are read as a node
with enough fuel, whatever tokens follow, and `ParsesValue` says it of the value of an entry,
which may be a sequence that is not indented.  Scalars and mappings of what is parsed are
parsed (`parses_scalar`, `parses_mapping`), and so are sequences as values
(`parsesValue_items`).
-/
import Mathlib.Data.List.Forall2
import AlertRules.Yaml.Node

namespace AlertRules.Yaml

open Node (read? blockNode? blockEntries? plainItems?)

/-- The tokens are one node of a block, of whatever follows. -/
structure Parses (n : Node) (ts : List Token) : Prop where
  starts : ∀ rest, Node.isLeftOut (ts ++ rest) = false
  read : ∀ {handles : List (List Char)} {fuel : Nat} {place : Node.Place} {rest : List Token}
    {names : List (List Char × Nat)}, place ≠ .flow → 4 * ts.length ≤ fuel →
    read? handles fuel place ⟨ts ++ rest, names⟩ = some (n, ⟨rest, names⟩)

/-- The tokens do not go on with an item. -/
def NoItem (ts : List Token) : Prop := ∀ r, ts ≠ .blockEntry :: r

/-- The tokens are the value of an entry, if no item follows. -/
def ParsesValue (n : Node) (ts : List Token) : Prop :=
  ∀ {handles : List (List Char)} {fuel : Nat} {rest : List Token}
    {names : List (List Char × Nat)}, NoItem rest → 4 * ts.length < fuel →
    blockNode? handles fuel ⟨ts ++ rest, names⟩ = some (n, ⟨rest, names⟩)

/-- The tokens are an entry of a mapping. -/
def ParsesEntry (e : Node × Node) (ts : List Token) : Prop :=
  ∃ keyTokens valueTokens, ts = .key :: keyTokens ++ .value :: valueTokens ∧
    Parses e.1 keyTokens ∧ ParsesValue e.2 valueTokens

variable {n : Node} {ts : List Token}

theorem Parses.value (h : Parses n ts) : ParsesValue n ts := by
  intro handles fuel rest names _ hfuel
  obtain ⟨fuel, rfl⟩ : ∃ k, fuel = k + 1 := ⟨fuel - 1, by omega⟩
  have hstarts := h.starts rest
  have hread : read? handles fuel .entry ⟨ts ++ rest, names⟩ = some (n, ⟨rest, names⟩) :=
    h.read nofun (Nat.le_of_lt_succ hfuel)
  -- the tokens start with none of those that would leave the node empty
  rw [blockNode?]
  revert hread
  generalize ts ++ rest = tokens at hstarts
  intro hread
  simp only
  split
  · cases hstarts
  · cases hstarts
  · cases hstarts
  · exact hread

theorem parses_scalar (plain : Bool) (text : List Char) :
    Parses (.scalar none plain text) [.scalar plain text] := by
  refine ⟨fun _ => rfl, ?_⟩
  intro handles fuel place rest names _ hfuel
  obtain ⟨fuel, rfl⟩ : ∃ k, fuel = k + 1 := ⟨fuel - 1, by simp at hfuel; omega⟩
  rfl

/-! ### Mappings -/

theorem blockEntries?_of_entries {handles : List (List Char)} {entries : List (Node × Node)}
    {tss : List (List Token)} (h : List.Forall₂ ParsesEntry entries tss) {fuel : Nat}
    {rest : List Token} {names : List (List Char × Nat)}
    (hfuel : 4 * (tss.flatten.length + 1) ≤ fuel) :
    blockEntries? handles fuel ⟨tss.flatten ++ .blockEnd :: rest, names⟩ =
      some (entries, ⟨rest, names⟩) := by
  induction h generalizing fuel with
  | nil =>
    obtain ⟨fuel, rfl⟩ : ∃ k, fuel = k + 1 := ⟨fuel - 1, by omega⟩
    rfl
  | @cons entry ts entries tss hentry hmore ih =>
    obtain ⟨keyTokens, valueTokens, rfl, hkey, hvalue⟩ := hentry
    obtain ⟨fuel, rfl⟩ : ∃ k, fuel = k + 1 := ⟨fuel - 1, by omega⟩
    simp only [List.flatten_cons, List.length_append, List.length_cons] at hfuel
    -- a value ends before the next key or the end of the mapping, neither of which is an item
    have hnext : NoItem (tss.flatten ++ .blockEnd :: rest) := by
      intro r hr
      cases hmore with
      | nil => cases hr
      | cons hentry' _ =>
        obtain ⟨_, _, rfl, -⟩ := hentry'
        cases hr
    have htokens : List.flatten ((.key :: keyTokens ++ .value :: valueTokens) :: tss) ++
        .blockEnd :: rest =
          .key :: (keyTokens ++ .value :: (valueTokens ++ (tss.flatten ++ .blockEnd :: rest))) := by
      simp
    have hkey' : blockNode? handles fuel ⟨keyTokens ++ .value :: (valueTokens ++
        (tss.flatten ++ .blockEnd :: rest)), names⟩ = some (entry.1, ⟨_, names⟩) :=
      hkey.value nofun (by omega)
    have hvalue' : blockNode? handles fuel ⟨valueTokens ++ (tss.flatten ++ .blockEnd :: rest),
        names⟩ = some (entry.2, ⟨_, names⟩) :=
      hvalue hnext (by omega)
    have hmore' : blockEntries? handles fuel ⟨tss.flatten ++ .blockEnd :: rest, names⟩ =
        some (entries, ⟨rest, names⟩) := ih (by omega)
    rw [htokens, blockEntries?, hkey']
    simp only [Option.bind_eq_bind, Option.bind_some, hvalue', hmore']
    rfl

theorem parses_mapping {entries : List (Node × Node)} {tss : List (List Token)}
    (h : List.Forall₂ ParsesEntry entries tss) :
    Parses (.mapping none entries) (.blockMappingStart :: tss.flatten ++ [.blockEnd]) := by
  refine ⟨fun _ => rfl, ?_⟩
  intro handles fuel place rest names hplace hfuel
  obtain ⟨fuel, rfl⟩ : ∃ k, fuel = k + 1 := ⟨fuel - 1, by simp at hfuel; omega⟩
  simp only [List.length_append, List.length_cons, List.length_nil] at hfuel
  have hentries : blockEntries? handles fuel ⟨tss.flatten ++ .blockEnd :: rest, names⟩ =
      some (entries, ⟨rest, names⟩) := blockEntries?_of_entries h (by omega)
  rw [List.append_assoc, List.cons_append, List.singleton_append, read?]
  · simp only [Node.properties?, Node.Input.define, Option.bind_eq_bind, Option.bind_some,
      if_neg hplace, hentries]
    rfl
  · nofun

/-! ### Sequences -/

theorem plainItems?_of_items {handles : List (List Char)} {items : List Node}
    {tss : List (List Token)} (h : List.Forall₂ Parses items tss) {fuel : Nat}
    {rest : List Token} {names : List (List Char × Nat)} (hrest : NoItem rest)
    (hpos : 0 < fuel)
    (hfuel : 4 * (tss.flatMap (Token.blockEntry :: ·)).length < fuel + 3) :
    plainItems? handles fuel ⟨tss.flatMap (Token.blockEntry :: ·) ++ rest, names⟩ =
      some (items, ⟨rest, names⟩) := by
  induction h generalizing fuel with
  | nil =>
    obtain ⟨fuel, rfl⟩ : ∃ k, fuel = k + 1 := ⟨fuel - 1, by omega⟩
    rw [List.flatMap_nil, List.nil_append, plainItems?]
    intro r names' hr
    cases hr
    exact hrest _ rfl
  | @cons item ts items tss hitem hmore ih =>
    obtain ⟨fuel, rfl⟩ : ∃ k, fuel = k + 1 := ⟨fuel - 1, by omega⟩
    simp only [List.flatMap_cons, List.length_append, List.length_cons] at hfuel
    have hitem' : read? handles fuel .block ⟨ts ++ (tss.flatMap (Token.blockEntry :: ·) ++ rest),
        names⟩ = some (item, ⟨_, names⟩) := hitem.read nofun (by omega)
    have hmore' : plainItems? handles fuel ⟨tss.flatMap (Token.blockEntry :: ·) ++ rest, names⟩ =
        some (items, ⟨rest, names⟩) := ih (by omega) (by omega)
    rw [List.flatMap_cons, List.append_assoc, List.cons_append, plainItems?]
    simp only [hitem.starts, Bool.false_eq_true, if_false, hitem', hmore', Option.bind_eq_bind,
      Option.bind_some]
    rfl

/-- Items in the column of their key are the value of the entry. -/
theorem parsesValue_items {items : List Node} {tss : List (List Token)}
    (h : List.Forall₂ Parses items tss) (hne : items ≠ []) :
    ParsesValue (.sequence none items) (tss.flatMap (Token.blockEntry :: ·)) := by
  intro handles fuel rest names hrest hfuel
  obtain ⟨ts, more, hts⟩ : ∃ ts more, tss = ts :: more := by
    cases h with
    | nil => exact absurd rfl hne
    | cons => exact ⟨_, _, rfl⟩
  have hlength : 1 ≤ (tss.flatMap (Token.blockEntry :: ·)).length := by
    rw [hts, List.flatMap_cons, List.length_append, List.length_cons]
    omega
  obtain ⟨fuel, rfl⟩ : ∃ k, fuel = k + 2 := ⟨fuel - 2, by omega⟩
  have hitems : plainItems? handles fuel ⟨tss.flatMap (Token.blockEntry :: ·) ++ rest, names⟩ =
      some (items, ⟨rest, names⟩) := plainItems?_of_items h hrest (by omega) (by omega)
  rw [hts, List.flatMap_cons, List.append_assoc, List.cons_append] at hitems ⊢
  rw [blockNode?]
  simp only
  rw [read?]
  · simp only [Node.properties?, Node.Input.define, Option.bind_eq_bind, Option.bind_some, if_true,
      hitems]
    rfl
  · nofun

theorem parses_noItems :
    Parses (.sequence none []) [.flowSequenceStart, .flowSequenceEnd] := by
  refine ⟨fun _ => rfl, ?_⟩
  intro handles fuel place rest names hplace hfuel
  obtain ⟨fuel, rfl⟩ : ∃ k, fuel = k + 2 := ⟨fuel - 2, by simp at hfuel; omega⟩
  rfl

/-! ### Documents -/

/-- The tokens of one mapping are a document without anchors. -/
theorem ofTokens?_of_parses {entries : List (Node × Node)} {ts : List Token}
    (h : Parses (.mapping none entries) (.blockMappingStart :: ts)) :
    ∃ anchors, Document.ofTokens? (.blockMappingStart :: ts) =
      some ⟨.mapping none entries, anchors⟩ := by
  have hread : read? [] (4 * (Token.blockMappingStart :: ts).length + 4) .block
      ⟨.blockMappingStart :: ts ++ [], []⟩ = some (.mapping none entries, ⟨[], []⟩) :=
    h.read nofun (Nat.le_add_right _ _)
  rw [List.append_nil] at hread
  refine ⟨(Node.mapping none entries).anchored.reverse, ?_⟩
  rw [Document.ofTokens?]
  simp only [Document.directives?, Option.bind_eq_bind, Option.bind_some, List.isEmpty_nil,
    Bool.not_true, Bool.or_false, Bool.false_eq_true, if_false, hread]
  rfl

end AlertRules.Yaml
