/-
AlertRules/Proofs/Rule/Strict.lean

Reading a rule or a group is indifferent to order and strict about keys.  `Rule.Reordered` and
`RuleGroup.Reordered` relate trees that differ only in the order of entries: of the root, of the
rules of a group, and of their maps of labels, as long as the keys of such a map are distinct.
`Spoils` relates the entries of a mapping to what is left of it by a slip: a key that does not
belong there, a key that is there twice, or one that is missing.

Documents with reordered trees are read alike, and a document with a spoiled mapping is not read
at all, whatever else it says (`read?_reordered_and_spoiled`).  A mapping need not have been in
order before it was spoiled, since all that is known of one that is read is that its keys are
those of a record.
-/
import AlertRules.Proofs.Rule.Record

namespace AlertRules

open Yaml

/-! ### The same entries in another order -/

/-- The same tree, or a mapping with the same entries in another order; its keys are distinct. -/
inductive LabelsReordered : Node → Node → Prop
  | same (n : Node) : LabelsReordered n n
  | entries {es es' : List (Node × Node)} : es.Perm es' → (keyTexts [] es).Nodup →
      LabelsReordered (.mapping none es) (.mapping none es')

theorem LabelsReordered.labels?_eq {v v' : Node} (h : LabelsReordered v v') :
    v.labels? [] = v'.labels? [] := by
  cases h with
  | same => rfl
  | entries hperm hdistinct => exact labels?_perm hperm hdistinct

/-- What may stand for each other as the field of a rule with this name. -/
def Rule.ValueReordered (name : String) (v v' : Node) : Prop :=
  if name ∈ ["labels", "annotations"] then LabelsReordered v v' else v = v'

/-- The same tree, or a mapping with the same entries in another order, and in maps of labels
likewise. -/
inductive Rule.Reordered : Node → Node → Prop
  | same (n : Node) : Rule.Reordered n n
  | entries {es mid es' : List (Node × Node)} : es.Perm mid →
      List.Forall₂ (EntryAlike [] [] Rule.ValueReordered) mid es' →
      Rule.Reordered (.mapping none es) (.mapping none es')

theorem entriesAlike_refl {same : String → Node → Node → Prop} (h : ∀ name v, same name v v)
    (es : List (Node × Node)) : List.Forall₂ (EntryAlike [] [] same) es es :=
  List.forall₂_same.2 fun _ _ => ⟨rfl, fun name _ => h name _⟩

theorem Rule.ValueReordered.refl (name : String) (v : Node) : Rule.ValueReordered name v v := by
  unfold Rule.ValueReordered
  split
  · exact .same v
  · rfl

/-- The entries of a rule may come in any order. -/
theorem Rule.reordered_of_perm {es es' : List (Node × Node)} (h : es.Perm es') :
    Rule.Reordered (.mapping none es) (.mapping none es') :=
  .entries h (entriesAlike_refl Rule.ValueReordered.refl es')

/-- The same tree, or a sequence of reordered rules; they stay in their places. -/
inductive RulesReordered : Node → Node → Prop
  | same (n : Node) : RulesReordered n n
  | items {ns ns' : List Node} : List.Forall₂ Rule.Reordered ns ns' →
      RulesReordered (.sequence none ns) (.sequence none ns')

/-- What may stand for each other as the field of a group with this name. -/
def RuleGroup.ValueReordered (name : String) (v v' : Node) : Prop :=
  if name = "rules" then RulesReordered v v' else v = v'

/-- The same tree, or a mapping with the same entries in another order, and in its rules
likewise. -/
inductive RuleGroup.Reordered : Node → Node → Prop
  | same (n : Node) : RuleGroup.Reordered n n
  | entries {es mid es' : List (Node × Node)} : es.Perm mid →
      List.Forall₂ (EntryAlike [] [] RuleGroup.ValueReordered) mid es' →
      RuleGroup.Reordered (.mapping none es) (.mapping none es')

theorem fields_alike_of_entries {same same' : String → Node → Node → Prop}
    (himp : ∀ name v v', same name v v' → same' name v v') {es mid es' : List (Node × Node)}
    (hperm : es.Perm mid) (h : List.Forall₂ (EntryAlike [] [] same) mid es') :
    Option.Rel (FieldsAlike same') ((Node.mapping none es).fields? [])
      ((Node.mapping none es').fields? []) := by
  refine rel_fields?_of_perm hperm (h.imp fun e e' he => ⟨he.1, ?_⟩)
  exact fun name hname => himp name _ _ (he.2 name hname)

section Reordered

variable {t t' : Node}

theorem Rule.Reordered.ofNode?_eq (h : Rule.Reordered t t') :
    Rule.ofNode? [] t = Rule.ofNode? [] t' := by
  cases h with
  | same => rfl
  | entries hperm hentries =>
    refine Rule.ofNode?_congr (fields_alike_of_entries ?_ hperm hentries)
    intro name v v' hvalue
    unfold Rule.SameField
    unfold Rule.ValueReordered at hvalue
    split at hvalue
    · rw [if_pos ‹_›]
      exact hvalue.labels?_eq
    · rw [if_neg ‹_›, hvalue]

theorem RulesReordered.rules?_eq {v v' : Node} (h : RulesReordered v v') :
    RuleGroup.rules? [] v = RuleGroup.rules? [] v' := by
  cases h with
  | same => rfl
  | items hitems =>
    exact RuleGroup.rules?_congr (.some (hitems.imp fun _ _ => Rule.Reordered.ofNode?_eq))

theorem RuleGroup.Reordered.ofNode?_eq (h : RuleGroup.Reordered t t') :
    RuleGroup.ofNode? [] t = RuleGroup.ofNode? [] t' := by
  cases h with
  | same => rfl
  | entries hperm hentries =>
    refine RuleGroup.ofNode?_congr (fields_alike_of_entries ?_ hperm hentries)
    intro name v v' hvalue
    unfold RuleGroup.SameField
    unfold RuleGroup.ValueReordered at hvalue
    split at hvalue
    · rw [if_pos ‹_›]
      exact hvalue.rules?_eq
    · rw [if_neg ‹_›, hvalue]

end Reordered

/-! ### Slips in a mapping -/

/-- How the entries of a mapping with these names, some of which it has to have, are spoiled. -/
inductive Spoils (names required : List String) : List (Node × Node) → List (Node × Node) → Prop
  /-- An entry has a key that is none of the names. -/
  | unknown {before after : List (Node × Node)} {k v : Node} :
      (∀ name ∈ names, k.text? [] ≠ some name) →
      Spoils names required (before ++ after) (before ++ (k, v) :: after)
  /-- An entry has a name that another one has. -/
  | again {before after : List (Node × Node)} {e : Node × Node} {k v : Node} {name : String} :
      name ∈ names → e ∈ before ++ after → e.1.text? [] = some name → k.text? [] = some name →
      Spoils names required (before ++ after) (before ++ (k, v) :: after)
  /-- No entry is left that has a name that has to be there. -/
  | without {es : List (Node × Node)} {name : String} : name ∈ required →
      Spoils names required es (es.filter fun e => e.1.text? [] ≠ some name)

/-- A spoiled mapping does not have the keys of a record. -/
theorem Spoils.not_isRecord {names required : List String} {es es' : List (Node × Node)}
    (h : Spoils names required es es') : ¬ IsRecord [] names required es' := by
  intro hrecord
  cases h with
  | @unknown before after k v hk =>
    obtain ⟨name, hname, hkey⟩ := hrecord.known (k, v) (by simp)
    exact hk name hname hkey
  | @again before after e k v name hname he hename hk =>
    -- the new key shows the text of another one, so the texts are not distinct
    have hdistinct := hrecord.distinct
    rw [List.map_append, List.map_cons, List.nodup_middle, ← List.map_append,
      List.nodup_cons] at hdistinct
    exact hdistinct.1 (List.mem_map.2 ⟨e, he, hename.trans hk.symm⟩)
  | @without es name hname =>
    obtain ⟨e, he, hkey⟩ := hrecord.complete name hname
    exact of_decide_eq_true (List.mem_filter.1 he).2 hkey

/-- How the entries of the mapping of a group are spoiled: as those of any mapping, or inside one
of its rules. -/
inductive RuleGroup.Spoils : List (Node × Node) → List (Node × Node) → Prop
  | entry {es es' : List (Node × Node)} :
      AlertRules.Spoils RuleGroup.fieldNames ["name"] es es' → RuleGroup.Spoils es es'
  | rule {before after : List (Node × Node)} {k : Node} {ns ns' : List Node}
      {es es' : List (Node × Node)} : k.text? [] = some "rules" →
      AlertRules.Spoils Rule.fieldNames ["alert", "expr"] es es' →
      RuleGroup.Spoils (before ++ (k, .sequence none (ns ++ .mapping none es :: ns')) :: after)
        (before ++ (k, .sequence none (ns ++ .mapping none es' :: ns')) :: after)

theorem Rule.ofNode?_eq_none_of_spoils {es es' : List (Node × Node)}
    (h : Spoils Rule.fieldNames ["alert", "expr"] es es') :
    Rule.ofNode? [] (.mapping none es') = none := by
  rw [Option.eq_none_iff_forall_ne_some]
  exact fun r hr => h.not_isRecord (Rule.isRecord_of_ofNode? hr)

/-- Where an item is not read as a rule, the items are not read as rules. -/
theorem RuleGroup.rules?_eq_none {ns ns' : List Node} {n : Node} (h : Rule.ofNode? [] n = none) :
    RuleGroup.rules? [] (.sequence none (ns ++ n :: ns')) = none := by
  rw [Option.eq_none_iff_forall_ne_some]
  intro rs hrs
  obtain ⟨_, -, hr⟩ := exists_mem_of_mapM hrs (List.mem_append_right _ List.mem_cons_self)
  rw [h] at hr
  cases hr

theorem RuleGroup.ofNode?_eq_none_of_spoils {es es' : List (Node × Node)}
    (h : RuleGroup.Spoils es es') : RuleGroup.ofNode? [] (.mapping none es') = none := by
  rw [Option.eq_none_iff_forall_ne_some]
  intro g hg
  cases h with
  | entry hentry => exact hentry.not_isRecord (RuleGroup.isRecord_of_ofNode? hg)
  | @rule before after k ns ns' es es' hk hrule =>
    -- each of the items would be read as a rule, the spoiled one too
    obtain ⟨rs, hrs⟩ :=
      RuleGroup.rules?_of_ofNode? hg (List.mem_append_right _ List.mem_cons_self) hk
    rw [RuleGroup.rules?_eq_none (Rule.ofNode?_eq_none_of_spoils hrule)] at hrs
    cases hrs

/-! ### Reading documents -/

/-- Rules and groups are read alike from documents with reordered trees, and not at all from
documents with a spoiled mapping at the root or, for a group, as a rule, nor from documents that
have no tree. -/
theorem read?_reordered_and_spoiled :
    (∀ {text text' : String} {t t' : Node}, HasTree text t → HasTree text' t' →
      Rule.Reordered t t' → Rule.read? text = Rule.read? text') ∧
    (∀ {text text' : String} {t t' : Node}, HasTree text t → HasTree text' t' →
      RuleGroup.Reordered t t' → RuleGroup.read? text = RuleGroup.read? text') ∧
    (∀ {text : String} {es es' : List (Node × Node)}, HasTree text (.mapping none es') →
      Spoils Rule.fieldNames ["alert", "expr"] es es' → Rule.read? text = none) ∧
    (∀ {text : String} {es es' : List (Node × Node)}, HasTree text (.mapping none es') →
      RuleGroup.Spoils es es' → RuleGroup.read? text = none) ∧
    (∀ {text : String} {r : Rule}, Rule.read? text = some r → ∃ t, HasTree text t) ∧
    ∀ {text : String} {g : RuleGroup}, RuleGroup.read? text = some g → ∃ t, HasTree text t := by
  refine ⟨?_, ?_, ?_, ?_, Rule.hasTree_of_read?, RuleGroup.hasTree_of_read?⟩
  · intro text text' t t' ht ht' h
    rw [Rule.read?_of_hasTree ht, Rule.read?_of_hasTree ht', h.ofNode?_eq]
  · intro text text' t t' ht ht' h
    rw [RuleGroup.read?_of_hasTree ht, RuleGroup.read?_of_hasTree ht', h.ofNode?_eq]
  · intro text es es' ht h
    rw [Rule.read?_of_hasTree ht, Rule.ofNode?_eq_none_of_spoils h]
  · intro text es es' ht h
    rw [RuleGroup.read?_of_hasTree ht, RuleGroup.ofNode?_eq_none_of_spoils h]

def plainNode (text : String) : Node := .scalar none true text.toList

def plainEntries (es : List (String × String)) : List (Node × Node) :=
  es.map fun e => (plainNode e.1, plainNode e.2)

/-- A rule with an alias and one without, with labels in different order; a group with its entries
and those of its rule in different order; a rule with a key that is misspelled; a group with a
rule that has a name twice; a rule and a group that are read. -/
theorem read?_of_reordered_and_spoiled_documents :
    Rule.read? "alert: &a up\nexpr: *a\nlabels: \x7bx: *a, y: z\x7d\n" =
      Rule.read? "labels: \x7by: z, x: up\x7d\nalert: up\nexpr: up\n" ∧
    RuleGroup.read? "name: g\nrules:\n- alert: up\n  expr: up\n" =
      RuleGroup.read? "rules:\n- expr: up\n  alert: up\nname: g\n" ∧
    Rule.read? "alert: up\nfro: 5m\nexpr: up\n" = none ∧
    RuleGroup.read? "name: g\nrules:\n- alert: up\n  expr: up\n  alert: up\n" = none ∧
    (∃ t, HasTree "alert: up\nexpr: up\n" t) ∧ ∃ t, HasTree "name: g\n" t := by
  obtain ⟨hrules, hgroups, hrule, hgroup, hread, hreadGroup⟩ := read?_reordered_and_spoiled
  refine ⟨?_, ?_, ?_, ?_, ?_, ?_⟩
  · have htree : HasTree "alert: &a up\nexpr: *a\nlabels: \x7bx: *a, y: z\x7d\n"
        (.mapping none (plainEntries [("alert", "up"), ("expr", "up")] ++
          [(plainNode "labels", .mapping none (plainEntries [("x", "up"), ("y", "z")]))])) :=
      hasTree_of_expand? 3 (by decide +kernel)
    have htree' : HasTree "labels: \x7by: z, x: up\x7d\nalert: up\nexpr: up\n"
        (.mapping none (
          (plainNode "labels", .mapping none (plainEntries [("y", "z"), ("x", "up")])) ::
            plainEntries [("alert", "up"), ("expr", "up")])) :=
      hasTree_of_expand? 3 (by decide +kernel)
    refine hrules htree htree' (.entries List.perm_append_comm (.cons ⟨rfl, ?_⟩ ?_))
    · rintro _ hname
      cases hname
      exact LabelsReordered.entries (.swap _ _ _) (by decide +kernel)
    · exact entriesAlike_refl Rule.ValueReordered.refl _
  · have htree : HasTree "name: g\nrules:\n- alert: up\n  expr: up\n"
        (.mapping none [(plainNode "name", plainNode "g"), (plainNode "rules",
          .sequence none [.mapping none (plainEntries [("alert", "up"), ("expr", "up")])])]) :=
      hasTree_of_expand? 4 (by decide +kernel)
    have htree' : HasTree "rules:\n- expr: up\n  alert: up\nname: g\n"
        (.mapping none [(plainNode "rules",
          .sequence none [.mapping none (plainEntries [("expr", "up"), ("alert", "up")])]),
          (plainNode "name", plainNode "g")]) :=
      hasTree_of_expand? 4 (by decide +kernel)
    refine hgroups htree htree' (.entries (.swap _ _ _) (.cons ⟨rfl, ?_⟩ (.cons ⟨rfl, ?_⟩ .nil)))
    · rintro _ hname
      cases hname
      exact RulesReordered.items (.cons (Rule.reordered_of_perm (.swap _ _ _)) .nil)
    · rintro _ hname
      cases hname
      exact (rfl : plainNode "g" = plainNode "g")
  · have htree : HasTree "alert: up\nfro: 5m\nexpr: up\n" (.mapping none
        (plainEntries [("alert", "up")] ++ (plainNode "fro", plainNode "5m") ::
          plainEntries [("expr", "up")])) :=
      hasTree_of_expand? 2 (by decide +kernel)
    exact hrule htree (.unknown (by decide +kernel))
  · have htree : HasTree "name: g\nrules:\n- alert: up\n  expr: up\n  alert: up\n"
        (.mapping none ([(plainNode "name", plainNode "g")] ++
          (plainNode "rules", .sequence none ([] ++ .mapping none
            (plainEntries [("alert", "up"), ("expr", "up")] ++
              (plainNode "alert", plainNode "up") :: []) :: [])) :: [])) :=
      hasTree_of_expand? 4 (by decide +kernel)
    have hknown : "alert" ∈ Rule.fieldNames := by decide
    exact hgroup htree (.rule rfl (.again hknown List.mem_cons_self rfl rfl))
  · have hup : Rule.read? "alert: up\nexpr: up\n" = some ⟨"up", "up", "", .empty, .empty⟩ := by
      decide +kernel
    exact hread hup
  · have hg : RuleGroup.read? "name: g\n" = some ⟨"g", "", []⟩ := by decide +kernel
    exact hreadGroup hg

end AlertRules
