/-
AlertRules/Proofs/Yaml/Tree.lean

Documents as trees.  `Expands` relates a node with aliases to the tree in which every alias has
been replaced by the node that it refers to; `HasTree` says that a text is a document with such a
tree.  Of a node, the views of it (its text, its items, its fields) show no more than its tree does
(`text?_of_expands`, `rel_items?_of_expands`, `rel_fields?_of_expands`).

Two nodes may show the same fields in different order, and with different values.  `FieldsAlike`
says so, given which values may stand under the same name.
-/
import Mathlib.Data.List.Forall2
import Mathlib.Data.Option.Defs
import AlertRules.Proofs.Labels
import AlertRules.Rule.Document

namespace AlertRules.Yaml

/-! ### Reading each item of a list -/

section Each

variable {α β γ δ : Type} {f : α → Option β} {g : γ → Option δ}

theorem rel_comp {R : α → β → Prop} {S : β → γ → Prop} {T : α → γ → Prop}
    (h : ∀ a b c, R a b → S b c → T a c) {x : Option α} {y : Option β} {z : Option γ}
    (hxy : Option.Rel R x y) (hyz : Option.Rel S y z) : Option.Rel T x z := by
  cases hxy with
  | none =>
    cases hyz
    exact .none
  | some hab =>
    cases hyz with
    | some hbc => exact .some (h _ _ _ hab hbc)

theorem rel_imp {R S : α → β → Prop} (h : ∀ a b, R a b → S a b) {x : Option α} {y : Option β}
    (hxy : Option.Rel R x y) : Option.Rel S x y := by
  cases hxy with
  | none => exact .none
  | some hab => exact .some (h _ _ hab)

theorem rel_and {R : α → β → Prop} {P : α → Prop} {x : Option α} {y : Option β}
    (h : Option.Rel R x y) (hx : ∀ a, x = some a → P a) :
    Option.Rel (fun a b => R a b ∧ P a) x y := by
  cases h with
  | none => exact .none
  | some hab => exact .some ⟨hab, hx _ rfl⟩

/-- Goes on after results that correspond. -/
theorem bind_eq_of_rel {R : α → γ → Prop} {x : Option α} {y : Option γ} (h : Option.Rel R x y)
    {k : α → Option β} {k' : γ → Option β} (hk : ∀ {a c}, R a c → k a = k' c) :
    (x >>= k) = (y >>= k') := by
  cases h with
  | none => rfl
  | some hac => exact hk hac

theorem mapM_eq_of_forall₂ {g : γ → Option β} {as : List α} {cs : List γ}
    (h : List.Forall₂ (fun a c => f a = g c) as cs) : as.mapM f = cs.mapM g := by
  induction h with
  | nil => rfl
  | cons hac _ ih => rw [List.mapM_cons, List.mapM_cons, hac, ih]

theorem forall₂_of_mapM {as : List α} {bs : List β} (h : as.mapM f = some bs) :
    List.Forall₂ (fun a b => f a = some b) as bs := by
  induction as generalizing bs with
  | nil =>
    cases h
    exact .nil
  | cons a as ih =>
    rw [List.mapM_cons] at h
    cases ha : f a with
    | none =>
      rw [ha] at h
      cases h
    | some b =>
      cases hmore : as.mapM f with
      | none =>
        rw [ha, hmore] at h
        cases h
      | some more =>
        rw [ha, hmore] at h
        cases h
        exact .cons ha (ih hmore)

theorem exists_mem_of_mapM {as : List α} {bs : List β} (h : as.mapM f = some bs) {a : α}
    (ha : a ∈ as) : ∃ b ∈ bs, f a = some b := by
  have heach := forall₂_of_mapM h
  clear h
  induction heach with
  | nil => cases ha
  | cons hab _ ih =>
    rcases List.mem_cons.1 ha with rfl | hmem
    · exact ⟨_, List.mem_cons_self, hab⟩
    · obtain ⟨b, hb, heq⟩ := ih hmem
      exact ⟨b, List.mem_cons_of_mem _ hb, heq⟩

theorem map_eq_of_mapM {g : β → γ} {h : α → γ} (hf : ∀ a b, f a = some b → g b = h a)
    {as : List α} {bs : List β} (hread : as.mapM f = some bs) : bs.map g = as.map h := by
  have heach := forall₂_of_mapM hread
  clear hread
  induction heach with
  | nil => rfl
  | cons hab _ ih => rw [List.map_cons, List.map_cons, hf _ _ hab, ih]

theorem rel_mapM_of_forall₂ {R : β → δ → Prop} {as : List α} {cs : List γ}
    (h : List.Forall₂ (fun a c => Option.Rel R (f a) (g c)) as cs) :
    Option.Rel (List.Forall₂ R) (as.mapM f) (cs.mapM g) := by
  induction h with
  | nil => exact .some .nil
  | @cons a c as cs hac _ ih =>
    rw [List.mapM_cons, List.mapM_cons]
    generalize f a = b at hac ⊢
    generalize g c = d at hac ⊢
    cases hac with
    | none => exact .none
    | some hbd =>
      generalize as.mapM f = bs at ih ⊢
      generalize cs.mapM g = ds at ih ⊢
      cases ih with
      | none => exact .none
      | some hmore => exact .some (.cons hbd hmore)

theorem rel_mapM_of_perm {as as' : List α} (h : as.Perm as') :
    Option.Rel List.Perm (as.mapM f) (as'.mapM f) := by
  induction h with
  | nil => exact .some .nil
  | @cons a as as' _ ih =>
    rw [List.mapM_cons, List.mapM_cons]
    cases f a with
    | none => exact .none
    | some b =>
      generalize as.mapM f = bs at ih ⊢
      generalize as'.mapM f = bs' at ih ⊢
      cases ih with
      | none => exact .none
      | some hmore => exact .some (.cons b hmore)
  | swap a a' as =>
    simp only [List.mapM_cons]
    cases f a with
    | none => cases f a' <;> exact .none
    | some b =>
      cases f a' with
      | none => exact .none
      | some b' =>
        cases as.mapM f with
        | none => exact .none
        | some bs => exact .some (.swap b b' bs)
  | trans _ _ ih ih' => exact rel_comp (fun _ _ _ hperm hperm' => hperm.trans hperm') ih ih'

end Each

/-! ### Fields in any order -/

/-- The same name, with values that may stand for each other under it. -/
def FieldAlike (same : String → Node → Node → Prop) (f f' : String × Node) : Prop :=
  f.1 = f'.1 ∧ same f.1 f.2 f'.2

/-- The same names in some order, with values that may stand for each other. -/
def FieldsAlike (same : String → Node → Node → Prop) (fs fs' : List (String × Node)) : Prop :=
  ∃ mid, fs.Perm mid ∧ List.Forall₂ (FieldAlike same) mid fs'

section Fields

variable {same : String → Node → Node → Prop} {fs fs' : List (String × Node)}

theorem names_of_forall₂ (h : List.Forall₂ (FieldAlike same) fs fs') :
    fs.map Prod.fst = fs'.map Prod.fst := by
  induction h with
  | nil => rfl
  | cons hf _ ih => rw [List.map_cons, List.map_cons, hf.1, ih]

theorem FieldsAlike.perm_names (h : FieldsAlike same fs fs') :
    (fs.map Prod.fst).Perm (fs'.map Prod.fst) := by
  obtain ⟨mid, hperm, halike⟩ := h
  exact names_of_forall₂ halike ▸ hperm.map Prod.fst

theorem rel_lookup_of_forall₂ (h : List.Forall₂ (FieldAlike same) fs fs') (name : String) :
    Option.Rel (same name) (fs.lookup name) (fs'.lookup name) := by
  induction h with
  | nil => exact .none
  | @cons f f' fs fs' hf _ ih =>
    obtain ⟨key, v⟩ := f
    obtain ⟨key', v'⟩ := f'
    obtain ⟨rfl, hv⟩ := hf
    rw [List.lookup_cons, List.lookup_cons]
    cases hkey : name == key with
    | true => exact .some (beq_iff_eq.1 hkey ▸ hv)
    | false => exact ih

theorem FieldsAlike.rel_lookup (h : FieldsAlike same fs fs') (hnodup : (fs.map Prod.fst).Nodup)
    (name : String) : Option.Rel (same name) (fs.lookup name) (fs'.lookup name) := by
  obtain ⟨mid, hperm, halike⟩ := h
  -- without duplicates the order makes no difference to a look-up
  rw [Labels.lookup_perm hperm hnodup]
  exact rel_lookup_of_forall₂ halike name

/-- The same key, with values that may stand for each other under it. -/
def EntryAlike (anchors anchors' : List (Nat × Node)) (same : String → Node → Node → Prop)
    (e e' : Node × Node) : Prop :=
  e.1.text? anchors = e'.1.text? anchors' ∧
    ∀ name, e.1.text? anchors = some name → same name e.2 e'.2

section Mapping

variable {anchors anchors' : List (Nat × Node)} {a a' : Option Nat}
  {es mid es' : List (Node × Node)}

theorem rel_fields?_of_forall₂ (h : List.Forall₂ (EntryAlike anchors anchors' same) es es') :
    Option.Rel (List.Forall₂ (FieldAlike same)) ((Node.mapping a es).fields? anchors)
      ((Node.mapping a' es').fields? anchors') := by
  refine rel_mapM_of_forall₂ (h.imp ?_)
  rintro ⟨k, v⟩ ⟨k', v'⟩ ⟨hkey, hsame⟩
  show Option.Rel _ ((k.text? anchors).map fun name => (name, v))
    ((k'.text? anchors').map fun name => (name, v'))
  rw [← show k.text? anchors = k'.text? anchors' from hkey]
  cases hname : k.text? anchors with
  | none => exact .none
  | some name => exact .some ⟨rfl, hsame name hname⟩

/-- Mappings with the same keys in some order show fields that are alike. -/
theorem rel_fields?_of_perm (hperm : es.Perm mid)
    (h : List.Forall₂ (EntryAlike anchors anchors' same) mid es') :
    Option.Rel (FieldsAlike same) ((Node.mapping a es).fields? anchors)
      ((Node.mapping a' es').fields? anchors') := by
  have horder : Option.Rel List.Perm ((Node.mapping a es).fields? anchors)
      ((Node.mapping a mid).fields? anchors) := rel_mapM_of_perm hperm
  exact rel_comp (fun _ mid _ hfields halike => ⟨mid, hfields, halike⟩) horder
    (rel_fields?_of_forall₂ h)

end Mapping

end Fields

/-! ### Trees -/

mutual

/-- The second node is the first one with every alias replaced by the node that it refers to, and
without anchors. -/
inductive Expands (anchors : List (Nat × Node)) : Node → Node → Prop
  | scalar {n : Node} {a : Option Nat} {plain : Bool} {text : List Char} :
      n.resolve anchors = some (.scalar a plain text) → Expands anchors n (.scalar none plain text)
  | sequence {n : Node} {a : Option Nat} {items items' : List Node} :
      n.resolve anchors = some (.sequence a items) → ExpandsItems anchors items items' →
      Expands anchors n (.sequence none items')
  | mapping {n : Node} {a : Option Nat} {es es' : List (Node × Node)} :
      n.resolve anchors = some (.mapping a es) → ExpandsEntries anchors es es' →
      Expands anchors n (.mapping none es')

inductive ExpandsItems (anchors : List (Nat × Node)) : List Node → List Node → Prop
  | nil : ExpandsItems anchors [] []
  | cons {n t : Node} {ns ts : List Node} :
      Expands anchors n t → ExpandsItems anchors ns ts → ExpandsItems anchors (n :: ns) (t :: ts)

inductive ExpandsEntries (anchors : List (Nat × Node)) :
    List (Node × Node) → List (Node × Node) → Prop
  | nil : ExpandsEntries anchors [] []
  | cons {k k' v v' : Node} {es es' : List (Node × Node)} :
      Expands anchors k k' → Expands anchors v v' → ExpandsEntries anchors es es' →
      ExpandsEntries anchors ((k, v) :: es) ((k', v') :: es')

end

/-- The text is a document with this tree. -/
def HasTree (text : String) (t : Node) : Prop :=
  ∃ d, Document.read? text = some d ∧ Expands d.anchors d.root t

section Expands

variable {anchors : List (Nat × Node)} {n t : Node}

theorem ExpandsItems.forall₂ {ns ts : List Node} :
    ExpandsItems anchors ns ts → List.Forall₂ (Expands anchors) ns ts
  | .nil => .nil
  | .cons h more => .cons h more.forall₂

theorem ExpandsEntries.forall₂ {es es' : List (Node × Node)} :
    ExpandsEntries anchors es es' →
      List.Forall₂ (fun e e' => Expands anchors e.1 e'.1 ∧ Expands anchors e.2 e'.2) es es'
  | .nil => .nil
  | .cons hk hv more => .cons ⟨hk, hv⟩ more.forall₂

/-! ### Computing trees -/

theorem expandsItems_of_forall₂ {ns ts : List Node} (h : List.Forall₂ (Expands anchors) ns ts) :
    ExpandsItems anchors ns ts := by
  induction h with
  | nil => exact .nil
  | cons hn _ ih => exact .cons hn ih

theorem expandsEntries_of_forall₂ {es es' : List (Node × Node)}
    (h : List.Forall₂ (fun e e' => Expands anchors e.1 e'.1 ∧ Expands anchors e.2 e'.2) es es') :
    ExpandsEntries anchors es es' := by
  induction h with
  | nil => exact .nil
  | cons he _ ih => exact .cons he.1 he.2 ih

mutual

/-- Whether two nodes are the same is decided together with whether their lists are. -/
def Node.decEq : (n n' : Node) → Decidable (n = n')
  | .scalar a plain text, .scalar a' plain' text' =>
    decidable_of_iff (a = a' ∧ plain = plain' ∧ text = text') (by simp)
  | .reference k, .reference k' => decidable_of_iff (k = k') (by simp)
  | .sequence a items, .sequence a' items' =>
    letI := Node.decEqItems items items'
    decidable_of_iff (a = a' ∧ items = items') (by simp)
  | .mapping a es, .mapping a' es' =>
    letI := Node.decEqEntries es es'
    decidable_of_iff (a = a' ∧ es = es') (by simp)
  | .scalar .., .reference .. | .scalar .., .sequence .. | .scalar .., .mapping .. => isFalse nofun
  | .reference .., .scalar .. | .reference .., .sequence .. => isFalse nofun
  | .reference .., .mapping .. | .sequence .., .scalar .. => isFalse nofun
  | .sequence .., .reference .. | .sequence .., .mapping .. => isFalse nofun
  | .mapping .., .scalar .. | .mapping .., .reference .. => isFalse nofun
  | .mapping .., .sequence .. => isFalse nofun

def Node.decEqItems : (ns ns' : List Node) → Decidable (ns = ns')
  | [], [] => isTrue rfl
  | [], _ :: _ | _ :: _, [] => isFalse nofun
  | n :: ns, n' :: ns' =>
    letI := Node.decEq n n'
    letI := Node.decEqItems ns ns'
    decidable_of_iff (n = n' ∧ ns = ns') (by simp)

def Node.decEqEntries : (es es' : List (Node × Node)) → Decidable (es = es')
  | [], [] => isTrue rfl
  | [], _ :: _ | _ :: _, [] => isFalse nofun
  | (k, v) :: es, (k', v') :: es' =>
    letI := Node.decEq k k'
    letI := Node.decEq v v'
    letI := Node.decEqEntries es es'
    decidable_of_iff ((k = k' ∧ v = v') ∧ es = es') (by simp)

end

instance : DecidableEq Node := Node.decEq

/-- The tree of a node, if it is not deeper than the fuel allows. -/
def Node.expand? (anchors : List (Nat × Node)) : Nat → Node → Option Node
  | 0, _ => none
  | fuel + 1, n =>
    match n.resolve anchors with
    | some (.scalar _ plain text) => some (.scalar none plain text)
    | some (.sequence _ items) => (items.mapM (expand? anchors fuel)).map (.sequence none)
    | some (.mapping _ es) =>
      (es.mapM fun (k, v) => do return (← expand? anchors fuel k, ← expand? anchors fuel v)).map
        (.mapping none)
    | _ => none

theorem expands_of_expand? {fuel : Nat} (h : n.expand? anchors fuel = some t) :
    Expands anchors n t := by
  induction fuel generalizing n t with
  | zero => cases h
  | succ fuel ih =>
    unfold Node.expand? at h
    split at h
    · next hn =>
      cases h
      exact .scalar hn
    · next hn =>
      obtain ⟨ts, hts, rfl⟩ := Option.map_eq_some_iff.1 h
      exact .sequence hn (expandsItems_of_forall₂ ((forall₂_of_mapM hts).imp fun _ _ => ih))
    · next hn =>
      obtain ⟨es', hes', rfl⟩ := Option.map_eq_some_iff.1 h
      refine .mapping hn (expandsEntries_of_forall₂ ((forall₂_of_mapM hes').imp ?_))
      intro e e' he
      obtain ⟨k, hk, hmore⟩ := Option.bind_eq_some_iff.1 he
      obtain ⟨v, hv, heq⟩ := Option.bind_eq_some_iff.1 hmore
      cases heq
      exact ⟨ih hk, ih hv⟩
    · cases h

theorem hasTree_of_expand? {text : String} (fuel : Nat)
    (h : ((Document.read? text).bind fun d => d.root.expand? d.anchors fuel) = some t) :
    HasTree text t := by
  obtain ⟨d, hd, htree⟩ := Option.bind_eq_some_iff.1 h
  exact ⟨d, hd, expands_of_expand? htree⟩

/-! ### What a tree shows -/

theorem text?_of_expands (h : Expands anchors n t) : n.text? anchors = t.text? [] := by
  cases h with
  | scalar hn => rw [Node.text?, hn]; rfl
  | sequence hn _ => rw [Node.text?, hn]; rfl
  | mapping hn _ => rw [Node.text?, hn]; rfl

theorem rel_items?_of_expands (h : Expands anchors n t) :
    Option.Rel (List.Forall₂ (Expands anchors)) (n.items? anchors) (t.items? []) := by
  cases h with
  | @scalar _ a plain text hn =>
    rw [Node.items?, hn]
    cases plain with
    | false => exact .none
    | true =>
      cases text with
      | nil => exact .some .nil
      | cons => exact .none
  | sequence hn hitems =>
    rw [Node.items?, hn]
    exact .some hitems.forall₂
  | mapping hn _ =>
    rw [Node.items?, hn]
    exact .none

theorem rel_fields?_of_expands (h : Expands anchors n t) :
    Option.Rel (List.Forall₂ (FieldAlike fun _ => Expands anchors)) (n.fields? anchors)
      (t.fields? []) := by
  cases h with
  | @scalar _ a plain text hn =>
    rw [Node.fields?, hn]
    cases plain with
    | false => exact .none
    | true =>
      cases text with
      | nil => exact .some .nil
      | cons => exact .none
  | sequence hn _ =>
    rw [Node.fields?, hn]
    exact .none
  | @mapping _ a es es' hn hentries =>
    -- the node may be an alias to the mapping
    have hfields : n.fields? anchors = (Node.mapping a es).fields? anchors := by
      rw [Node.fields?, hn]
      rfl
    rw [hfields]
    refine rel_fields?_of_forall₂ (hentries.forall₂.imp ?_)
    exact fun _ _ he => ⟨text?_of_expands he.1, fun _ _ => he.2⟩

/-! ### Nodes with a tree -/

theorem exists_tree_of_text? {text : String} (h : n.text? anchors = some text) :
    ∃ t, Expands anchors n t := by
  unfold Node.text? at h
  split at h
  · next hn => exact ⟨_, .scalar hn⟩
  · cases h

theorem exists_trees {ns : List Node} (h : ∀ n ∈ ns, ∃ t, Expands anchors n t) :
    ∃ ts, ExpandsItems anchors ns ts := by
  induction ns with
  | nil => exact ⟨[], .nil⟩
  | cons n ns ih =>
    rw [List.forall_mem_cons] at h
    obtain ⟨t, ht⟩ := h.1
    obtain ⟨ts, hts⟩ := ih h.2
    exact ⟨t :: ts, .cons ht hts⟩

theorem exists_entry_trees {es : List (Node × Node)}
    (h : ∀ e ∈ es, (∃ t, Expands anchors e.1 t) ∧ ∃ t, Expands anchors e.2 t) :
    ∃ es', ExpandsEntries anchors es es' := by
  induction es with
  | nil => exact ⟨[], .nil⟩
  | cons e es ih =>
    rw [List.forall_mem_cons] at h
    obtain ⟨⟨k, hk⟩, v, hv⟩ := h.1
    obtain ⟨es', hes'⟩ := ih h.2
    exact ⟨(k, v) :: es', .cons hk hv hes'⟩

theorem exists_tree_of_items? {ns : List Node} (h : n.items? anchors = some ns)
    (hns : ∀ m ∈ ns, ∃ t, Expands anchors m t) : ∃ t, Expands anchors n t := by
  unfold Node.items? at h
  split at h
  · next hn =>
    cases h
    obtain ⟨ts, hts⟩ := exists_trees hns
    exact ⟨_, .sequence hn hts⟩
  · next hn => exact ⟨_, .scalar hn⟩
  · cases h

theorem exists_tree_of_fields? {fs : List (String × Node)} (h : n.fields? anchors = some fs)
    (hfs : ∀ f ∈ fs, ∃ t, Expands anchors f.2 t) : ∃ t, Expands anchors n t := by
  unfold Node.fields? at h
  split at h
  · next es hn =>
    have hentries : ∃ es', ExpandsEntries anchors es es' := by
      refine exists_entry_trees ?_
      rintro ⟨k, v⟩ he
      obtain ⟨f, hf, heq⟩ := exists_mem_of_mapM h he
      obtain ⟨key, hkey, rfl⟩ := Option.map_eq_some_iff.1 heq
      exact ⟨exists_tree_of_text? hkey, hfs _ hf⟩
    obtain ⟨es', hes'⟩ := hentries
    exact ⟨_, .mapping hn hes'⟩
  · next hn => exact ⟨_, .scalar hn⟩
  · cases h

end Expands

end AlertRules.Yaml
