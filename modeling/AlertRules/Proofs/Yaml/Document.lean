/-
AlertRules/Proofs/Yaml/Document.lean

Written documents are read back.  `Shows` says that lines at a column are entries of a
mapping: they have the tokens of the entries, and no character that may not be shown.  It is
built up as the lines are (an entry of two texts, lines below lines, a mapping below its key,
a sequence below its key), and a document that shows entries is read as the mapping of just
these (`read?_of_shows`).
-/
import AlertRules.Proofs.Yaml.Mapping
import AlertRules.Proofs.Yaml.Node

namespace AlertRules.Yaml

open Scalar (styleOf write)
open Lexer (scalarToken)

/-- The node that a written text is read as. -/
def scalarNode (cs : List Char) : Node := .scalar none (styleOf cs == .plain) cs

/-- The lines, from the column on, are the entries of a mapping. -/
def Shows (column : Nat) (text : List Char) (entries : List (Node × Node)) : Prop :=
  ∃ tss, Reads column text tss.flatten ∧ List.Forall₂ ParsesEntry entries tss ∧
    text.all isPrintable = true

variable {column : Nat} {text text' : List Char} {entries entries' : List (Node × Node)}

/-! ### Printable lines -/

theorem all_isPrintable_write (n : Nat) (cs : List Char) :
    (write n cs).all isPrintable = true :=
  List.all_eq_true.2 fun _ => Scalar.isPrintable_of_mem_write

theorem all_isPrintable_indentation (n : Nat) :
    (List.replicate n ' ').all isPrintable = true := by
  rw [List.all_eq_true]
  intro c hc
  rw [List.eq_of_mem_replicate hc]
  rfl

theorem all_isPrintable_writeEntry (column : Nat) (k v : List Char) :
    (Scalar.writeEntry column k v).all isPrintable = true := by
  have hend : ∀ cs, (Scalar.lineEnd cs).all isPrintable = true := by
    intro cs
    unfold Scalar.lineEnd
    split <;> rfl
  have hcolon : [':', ' '].all isPrintable = true := rfl
  have hquestion : ['?', ' '].all isPrintable = true := rfl
  unfold Scalar.writeEntry
  split <;> simp only [List.all_append, all_isPrintable_write, all_isPrintable_indentation, hend,
    hcolon, hquestion, Bool.and_self]

/-! ### Entries -/

theorem parses_scalarNode (cs : List Char) : Parses (scalarNode cs) [scalarToken cs] :=
  parses_scalar _ cs

/-- Lines of one entry. -/
theorem shows_of_entry {e : Node × Node} {ts : List Token} (hreads : Reads column text ts)
    (hentry : ParsesEntry e ts) (hprint : text.all isPrintable = true) : Shows column text [e] := by
  refine ⟨[ts], ?_, .cons hentry .nil, hprint⟩
  rw [List.flatten_singleton]
  exact hreads

theorem shows_entry (column : Nat) (k v : List Char) :
    Shows column (Scalar.writeEntry column k v) [(scalarNode k, scalarNode v)] := by
  have hentry : ParsesEntry (scalarNode k, scalarNode v)
      [.key, scalarToken k, .value, scalarToken v] :=
    ⟨_, _, rfl, parses_scalarNode k, (parses_scalarNode v).value⟩
  exact shows_of_entry (reads_entry column k v) hentry (all_isPrintable_writeEntry column k v)

/-- Lines below lines, at the same column. -/
theorem Shows.append (h : Shows column text entries) (h' : Shows column text' entries') :
    Shows column (text ++ (List.replicate column ' ' ++ text')) (entries ++ entries') := by
  obtain ⟨tss, hreads, hparses, hprint⟩ := h
  obtain ⟨tss', hreads', hparses', hprint'⟩ := h'
  refine ⟨tss ++ tss', ?_, List.rel_append hparses hparses', ?_⟩
  · rw [List.flatten_append]
    exact hreads.append hreads'
  · simp only [List.all_append, hprint, hprint', all_isPrintable_indentation, Bool.and_self]

/-- The lines of each entry, apart. -/
def ShowsEach (column : Nat) : List (List Char) → List (Node × Node) → Prop :=
  List.Forall₂ fun line e => Shows column line [e]

theorem ShowsEach.append {lines lines' : List (List Char)} (h : ShowsEach column lines entries)
    (h' : ShowsEach column lines' entries') :
    ShowsEach column (lines ++ lines') (entries ++ entries') :=
  List.rel_append h h'

theorem Shows.lines {lines : List (List Char)} (h : Shows column text entries)
    (hlines : ShowsEach column lines entries') :
    Shows column (text ++ lines.flatMap fun line => List.replicate column ' ' ++ line)
      (entries ++ entries') := by
  induction hlines generalizing text entries with
  | nil => simpa using h
  | cons hline _ ih => simpa using ih (h.append hline)

/-- The lines of entries, one below the other, show all of them. -/
theorem ShowsEach.shows {line : List Char} {lines : List (List Char)}
    (h : ShowsEach column (line :: lines) entries) :
    Shows column (line ++ lines.flatMap fun line => List.replicate column ' ' ++ line) entries := by
  cases h with
  | cons hline hlines => exact hline.lines hlines

/-- At column zero there is no indentation. -/
theorem ShowsEach.shows_flatten {lines : List (List Char)} (h : ShowsEach 0 lines entries)
    (hne : lines ≠ []) : Shows 0 lines.flatten entries := by
  obtain ⟨line, lines, rfl⟩ := List.exists_cons_of_ne_nil hne
  have hshows := h.shows
  simp only [List.replicate_zero, List.nil_append, List.flatMap_id'] at hshows
  exact hshows

/-- A mapping inside a mapping, below its key. -/
theorem Shows.inside {k : List Char} (hk : Scalar.isSimpleKey k = true)
    (h : Shows (column + 2) text entries) :
    Shows column (write (column + 2) k ++ ':' :: '\n' :: (List.replicate (column + 2) ' ' ++ text))
      [(scalarNode k, .mapping none entries)] := by
  obtain ⟨tss, hreads, hparses, hprint⟩ := h
  have hentry : ParsesEntry (scalarNode k, .mapping none entries) (.key :: scalarToken k ::
      .value :: .blockMappingStart :: tss.flatten ++ [.blockEnd]) :=
    ⟨_, _, rfl, parses_scalarNode k, (parses_mapping hparses).value⟩
  have hcolon : [':', '\n'].all isPrintable = true := rfl
  refine shows_of_entry (hreads.inside hk) hentry ?_
  show (write (column + 2) k ++ ([':', '\n'] ++ (List.replicate (column + 2) ' ' ++ text))).all
    isPrintable = true
  simp only [List.all_append, all_isPrintable_write, hcolon, all_isPrintable_indentation, hprint,
    Bool.and_self]

/-! ### Sequences -/

/-- The tokens of the entries of each item. -/
theorem exists_itemTokens {texts : List (List Char)} {items : List (List (Node × Node))}
    (h : List.Forall₂ (Shows 2) texts items) :
    ∃ tss, List.Forall₂ (Reads 2) texts tss ∧
      List.Forall₂ Parses (items.map (.mapping none))
        (tss.map fun ts => .blockMappingStart :: ts ++ [.blockEnd]) ∧
      ∀ text ∈ texts, text.all isPrintable = true := by
  induction h with
  | nil => exact ⟨[], .nil, .nil, nofun⟩
  | cons hitem _ ih =>
    obtain ⟨ts, hreads, hparses, hprint⟩ := hitem
    obtain ⟨tss, hmore, hmore', hmore''⟩ := ih
    exact ⟨ts.flatten :: tss, .cons hreads hmore, .cons (parses_mapping hparses) hmore',
      List.forall_mem_cons.2 ⟨hprint, hmore''⟩⟩

/-- A sequence of mappings, below its key at column zero. -/
theorem shows_items {k : List Char} (hk : Scalar.isSimpleKey k = true)
    {texts : List (List Char)} {items : List (List (Node × Node))} (hne : texts ≠ [])
    (h : List.Forall₂ (Shows 2) texts items) :
    Shows 0 (write 2 k ++ ':' :: '\n' :: texts.flatMap fun text => '-' :: ' ' :: text)
      [(scalarNode k, .sequence none (items.map (.mapping none)))] := by
  obtain ⟨tss, hreads, hparses, hprint⟩ := exists_itemTokens h
  have hne' : items.map (Node.mapping none) ≠ [] := by
    cases h with
    | nil => exact absurd rfl hne
    | cons => exact List.cons_ne_nil _ _
  have hvalue : ParsesValue (.sequence none (items.map (.mapping none))) (itemTokens tss) := by
    have hitems : ParsesValue _ ((tss.map fun ts => .blockMappingStart :: ts ++ [.blockEnd]).flatMap
        (Token.blockEntry :: ·)) := parsesValue_items hparses hne'
    rwa [List.flatMap_map] at hitems
  have hentry : ParsesEntry (scalarNode k, .sequence none (items.map (.mapping none)))
      (.key :: scalarToken k :: .value :: itemTokens tss) :=
    ⟨_, _, rfl, parses_scalarNode k, hvalue⟩
  have hhyphen : ['-', ' '].all isPrintable = true := rfl
  have hitems : (texts.flatMap fun text => ['-', ' '] ++ text).all isPrintable = true := by
    rw [List.all_flatMap, List.all_eq_true]
    intro text htext
    rw [List.all_append, hhyphen, hprint text htext, Bool.and_self]
  have hcolon : [':', '\n'].all isPrintable = true := rfl
  refine shows_of_entry (reads_items hk hne hreads) hentry ?_
  show (write 2 k ++ ([':', '\n'] ++ texts.flatMap fun text => ['-', ' '] ++ text)).all
    isPrintable = true
  rw [List.all_append, List.all_append, all_isPrintable_write, hcolon, hitems, Bool.and_self,
    Bool.and_self]

theorem shows_noItems {k : List Char} (hk : Scalar.isSimpleKey k = true) :
    Shows 0 (write 2 k ++ ": []\n".toList) [(scalarNode k, .sequence none [])] := by
  have hentry : ParsesEntry (scalarNode k, .sequence none [])
      [.key, scalarToken k, .value, .flowSequenceStart, .flowSequenceEnd] :=
    ⟨_, _, rfl, parses_scalarNode k, parses_noItems.value⟩
  refine shows_of_entry (reads_noItems hk) hentry ?_
  have hbrackets : ": []\n".toList.all isPrintable = true := by decide
  rw [List.all_append, all_isPrintable_write, hbrackets, Bool.and_self]

/-! ### Documents -/

/-- A document that shows entries is read as their mapping. -/
theorem read?_of_shows (h : Shows 0 text entries) :
    ∃ anchors, Document.read? (String.ofList text) = some ⟨.mapping none entries, anchors⟩ := by
  obtain ⟨tss, hreads, hparses, hprint⟩ := h
  obtain ⟨anchors, hdocument⟩ := ofTokens?_of_parses (parses_mapping hparses)
  refine ⟨anchors, ?_⟩
  rw [Document.read?, String.toList_ofList, scan?_of_reads hreads (List.all_eq_true.1 hprint),
    Option.bind_eq_bind,
    Option.bind_some]
  exact hdocument

end AlertRules.Yaml
