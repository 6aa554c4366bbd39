/-
AlertRules/Proofs/Rule/Record.lean

What reading a record depends on, and what it demands.  A record is read through look-ups of its
fields, so two nodes whose fields are alike, in whatever order they stand, are read alike
(`Rule.ofNode?_congr`, `RuleGroup.ofNode?_congr`), and a map of labels does not depend on the order
of its entries as long as their keys are distinct (`labels?_perm`).  In particular a document is
read as its tree is (`Rule.read?_of_hasTree`, `RuleGroup.read?_of_hasTree`).

A mapping that is read has distinct keys, among them all that have to be there and none that does
not belong there (`Rule.isRecord_of_ofNode?`, `RuleGroup.isRecord_of_ofNode?`).  Every place in it
is then read as something, so what is read has a tree: an alias to a node around it is refused
(`Rule.hasTree_of_read?`, `RuleGroup.hasTree_of_read?`).
-/
import AlertRules.Proofs.Yaml.Tree

namespace AlertRules

open Yaml

variable {anchors anchors' : List (Nat × Node)} {n n' : Node}

/-! ### Fields of a record -/

section Fields

variable {same : String → Node → Node → Prop} {fs fs' : List (String × Node)}

/-- Whether fields are a record is decided by their names. -/
theorem rel_record? {allowed : List String}
    (h : Option.Rel (FieldsAlike same) (n.fields? anchors) (n'.fields? anchors')) :
    Option.Rel (fun fs fs' => FieldsAlike same fs fs' ∧ (fs.map Prod.fst).Nodup)
      (n.record? anchors allowed) (n'.record? anchors' allowed) := by
  unfold Node.record?
  generalize n.fields? anchors = x at h ⊢
  generalize n'.fields? anchors' = y at h ⊢
  cases h with
  | none => exact .none
  | @some fs fs' halike =>
    -- both checks of a record look at the names only, and in no order
    have hnodup : (fs.map Prod.fst).Nodup ↔ (fs'.map Prod.fst).Nodup :=
      halike.perm_names.nodup_iff
    have hallowed : (fs.all fun f => allowed.contains f.1) =
        fs'.all fun f => allowed.contains f.1 := by
      have hnames := halike.perm_names.all_eq (f := allowed.contains)
      rwa [List.all_map, List.all_map] at hnames
    rw [Option.filter_some, Option.filter_some, decide_eq_decide.2 hnodup, hallowed]
    split
    · next hrecord =>
      have hdistinct := of_decide_eq_true (Bool.and_eq_true_iff.1 hrecord).1
      exact .some ⟨halike, hnodup.2 hdistinct⟩
    · exact .none

theorem readField?_congr {α : Type} {default : α} {read? read?' : Node → Option α}
    (h : FieldsAlike same fs fs') (hnodup : (fs.map Prod.fst).Nodup) (name : String)
    (hread : ∀ v v', same name v v' → read? v = read?' v') :
    readField? fs name default read? = readField? fs' name default read?' := by
  have hlookup := h.rel_lookup hnodup name
  unfold readField?
  generalize fs.lookup name = x at hlookup ⊢
  generalize fs'.lookup name = y at hlookup ⊢
  cases hlookup with
  | none => rfl
  | some hv => exact hread _ _ hv

end Fields

/-! ### Keys of a mapping -/

section Keys

variable {a : Option Nat} {es es' : List (Node × Node)}

/-- The texts of the keys of a mapping, of those that have one. -/
def keyTexts (anchors : List (Nat × Node)) (es : List (Node × Node)) : List String :=
  es.filterMap fun e => e.1.text? anchors

theorem map_text?_of_fields? {fs : List (String × Node)}
    (h : (Node.mapping a es).fields? anchors = some fs) :
    (fs.map Prod.fst).map some = es.map fun e => e.1.text? anchors := by
  rw [List.map_map]
  refine map_eq_of_mapM ?_ (show es.mapM _ = some fs from h)
  rintro ⟨k, v⟩ f hf
  obtain ⟨key, hkey, rfl⟩ := Option.map_eq_some_iff.1 hf
  exact hkey.symm

theorem keyTexts_of_fields? {fs : List (String × Node)}
    (h : (Node.mapping a es).fields? anchors = some fs) :
    keyTexts anchors es = fs.map Prod.fst :=
  calc keyTexts anchors es
      = (es.map fun e => e.1.text? anchors).filterMap id := by rw [List.filterMap_map]; rfl
    _ = ((fs.map Prod.fst).map some).filterMap id := by rw [map_text?_of_fields? h]
    _ = (fs.map Prod.fst).filterMap some := List.filterMap_map
    _ = fs.map Prod.fst := List.filterMap_some

/-- The keys of a mapping are texts, no two the same, all of them names that it may have, and
among them the names that it has to have. -/
structure IsRecord (anchors : List (Nat × Node)) (names required : List String)
    (es : List (Node × Node)) : Prop where
  known : ∀ e ∈ es, ∃ name ∈ names, e.1.text? anchors = some name
  distinct : (es.map fun e => e.1.text? anchors).Nodup
  complete : ∀ name ∈ required, ∃ e ∈ es, e.1.text? anchors = some name

theorem isRecord_of_record? {names required : List String} {fs : List (String × Node)}
    (h : (Node.mapping a es).record? anchors names = some fs)
    (hrequired : ∀ name ∈ required, ∃ v, fs.lookup name = some v) :
    IsRecord anchors names required es := by
  obtain ⟨hfields, hrecord⟩ := Option.filter_eq_some_iff.1 h
  obtain ⟨hnodup, hallowed⟩ := Bool.and_eq_true_iff.1 hrecord
  have htexts := map_text?_of_fields? hfields
  have hmem : ∀ text, text ∈ es.map (fun e => e.1.text? anchors) ↔
      ∃ name ∈ fs.map Prod.fst, some name = text := by
    intro text
    rw [← htexts, List.mem_map]
  refine ⟨?_, ?_, ?_⟩
  · intro e he
    obtain ⟨name, hname, heq⟩ := (hmem _).1 (List.mem_map_of_mem he)
    obtain ⟨f, hf, rfl⟩ := List.mem_map.1 hname
    exact ⟨f.1, List.contains_iff_mem.1 (List.all_eq_true.1 hallowed f hf), heq.symm⟩
  · rw [← htexts]
    exact (of_decide_eq_true hnodup).map fun _ _ => Option.some.inj
  · intro name hname
    obtain ⟨v, hv⟩ := hrequired name hname
    have hf : (name, v) ∈ fs :=
      (Labels.lookup_eq_some_iff_mem (of_decide_eq_true hnodup)).1 hv
    obtain ⟨e, he, htext⟩ := List.mem_map.1 ((hmem _).2 ⟨name, List.mem_map_of_mem hf, rfl⟩)
    exact ⟨e, he, htext⟩

/-- A record shows the value of each entry under its key. -/
theorem lookup_of_record? {names : List String} {name : String} {fs : List (String × Node)}
    {k v : Node} (h : (Node.mapping a es).record? anchors names = some fs) (hmem : (k, v) ∈ es)
    (hk : k.text? anchors = some name) : fs.lookup name = some v := by
  obtain ⟨hfields, hrecord⟩ := Option.filter_eq_some_iff.1 h
  have hnodup := of_decide_eq_true (Bool.and_eq_true_iff.1 hrecord).1
  obtain ⟨f, hf, heq⟩ := exists_mem_of_mapM hfields hmem
  obtain ⟨key, hkey, rfl⟩ := Option.map_eq_some_iff.1 heq
  cases hk.symm.trans hkey
  exact (Labels.lookup_eq_some_iff_mem hnodup).2 hf

/-- A record has a tree if its fields have. -/
theorem exists_tree_of_record? {names : List String} {fs : List (String × Node)}
    (h : n.record? anchors names = some fs)
    (hfs : ∀ name ∈ names, ∀ v, fs.lookup name = some v → ∃ t, Expands anchors v t) :
    ∃ t, Expands anchors n t := by
  obtain ⟨hfields, hrecord⟩ := Option.filter_eq_some_iff.1 h
  obtain ⟨hnodup, hallowed⟩ := Bool.and_eq_true_iff.1 hrecord
  refine exists_tree_of_fields? hfields ?_
  rintro ⟨name, v⟩ hf
  have hname : name ∈ names := List.contains_iff_mem.1 (List.all_eq_true.1 hallowed (name, v) hf)
  exact hfs name hname v ((Labels.lookup_eq_some_iff_mem (of_decide_eq_true hnodup)).2 hf)

end Keys

/-! ### Maps of labels -/

/-- The text of a field under its key. -/
def labelOf? (anchors : List (Nat × Node)) (f : String × Node) : Option (String × String) :=
  (f.2.text? anchors).map fun value => (f.1, value)

theorem labels?_eq : n.labels? anchors = (n.fields? anchors).bind fun fs =>
    (fs.mapM (labelOf? anchors)).bind fun es => some (Labels.ofList es) := rfl

/-- Fields with the same texts in the same order make the same map. -/
theorem labels?_congr (h : Option.Rel
      (List.Forall₂ (FieldAlike fun _ v v' => v.text? anchors = v'.text? anchors'))
      (n.fields? anchors) (n'.fields? anchors')) :
    n.labels? anchors = n'.labels? anchors' := by
  rw [labels?_eq, labels?_eq]
  refine bind_eq_of_rel h fun {fs fs'} hfields => ?_
  have hlabels : fs.mapM (labelOf? anchors) = fs'.mapM (labelOf? anchors') := by
    refine mapM_eq_of_forall₂ (hfields.imp ?_)
    rintro ⟨k, v⟩ ⟨k', v'⟩ ⟨hkey, htext⟩
    simp only [labelOf?, show v.text? anchors = v'.text? anchors' from htext,
      show k = k' from hkey]
  rw [hlabels]

theorem labels?_of_expands (h : Expands anchors n n') : n.labels? anchors = n'.labels? [] := by
  refine labels?_congr (rel_imp ?_ (rel_fields?_of_expands h))
  exact fun _ _ hfields => hfields.imp fun _ _ hf => ⟨hf.1, text?_of_expands hf.2⟩

/-- What is read as labels has a tree. -/
theorem exists_tree_of_labels? {m : Labels} (h : n.labels? anchors = some m) :
    ∃ t, Expands anchors n t := by
  obtain ⟨fs, hfields, h⟩ := Option.bind_eq_some_iff.1 h
  obtain ⟨es, hes, -⟩ := Option.bind_eq_some_iff.1 h
  refine exists_tree_of_fields? hfields ?_
  rintro ⟨k, v⟩ hf
  obtain ⟨e, -, heq⟩ := exists_mem_of_mapM hes hf
  obtain ⟨value, hvalue, -⟩ := Option.map_eq_some_iff.1 heq
  exact exists_tree_of_text? hvalue

theorem names_of_labels {fs : List (String × Node)} {es : List (String × String)}
    (h : fs.mapM (labelOf? anchors) = some es) : es.map Prod.fst = fs.map Prod.fst := by
  refine map_eq_of_mapM ?_ h
  intro f e he
  obtain ⟨value, -, rfl⟩ := Option.map_eq_some_iff.1 he
  rfl

/-- Where the keys are distinct, the order of the entries makes no difference. -/
theorem labels?_perm {a a' : Option Nat} {es es' : List (Node × Node)} (hperm : es.Perm es')
    (hdistinct : (keyTexts anchors es).Nodup) :
    (Node.mapping a es).labels? anchors = (Node.mapping a' es').labels? anchors := by
  have hfields : Option.Rel (fun fs fs' => fs.Perm fs' ∧ (fs.map Prod.fst).Nodup)
      ((Node.mapping a es).fields? anchors) ((Node.mapping a' es').fields? anchors) :=
    rel_and (rel_mapM_of_perm hperm) fun _ hfs => keyTexts_of_fields? hfs ▸ hdistinct
  rw [labels?_eq, labels?_eq]
  refine bind_eq_of_rel hfields fun {fs fs'} hfs => ?_
  have hlabels : Option.Rel (fun ls ls' => ls.Perm ls' ∧ (ls.map Prod.fst).Nodup)
      (fs.mapM (labelOf? anchors)) (fs'.mapM (labelOf? anchors)) :=
    rel_and (rel_mapM_of_perm hfs.1) fun _ hls => names_of_labels hls ▸ hfs.2
  exact bind_eq_of_rel hlabels fun hls => congrArg some (Labels.ofList_perm hls.1 hls.2)

/-! ### Rules -/

namespace Rule

/-- The values are read alike as the field of a rule with this name. -/
def SameField (anchors anchors' : List (Nat × Node)) (name : String) (v v' : Node) : Prop :=
  if name ∈ ["labels", "annotations"] then v.labels? anchors = v'.labels? anchors'
  else v.text? anchors = v'.text? anchors'

theorem sameField_of_expands (h : Expands anchors n n') (name : String) :
    SameField anchors [] name n n' := by
  unfold SameField
  split
  · exact labels?_of_expands h
  · exact text?_of_expands h

theorem ofNode?_congr (h : Option.Rel (FieldsAlike (SameField anchors anchors'))
      (n.fields? anchors) (n'.fields? anchors')) :
    ofNode? anchors n = ofNode? anchors' n' := by
  refine bind_eq_of_rel (rel_record? h) fun {fs fs'} ⟨hfields, hnodup⟩ => ?_
  refine bind_eq_of_rel (hfields.rel_lookup hnodup "alert") fun {v v'} halert => ?_
  rw [show v.text? anchors = v'.text? anchors' from halert]
  refine bind_congr fun alert => ?_
  refine bind_eq_of_rel (hfields.rel_lookup hnodup "expr") fun {v v'} hexpr => ?_
  rw [show v.text? anchors = v'.text? anchors' from hexpr]
  refine bind_congr fun expr => ?_
  rw [readField?_congr hfields hnodup "for" fun v v' hv => hv,
    readField?_congr hfields hnodup "labels" fun v v' hv => hv,
    readField?_congr hfields hnodup "annotations" fun v v' hv => hv]

theorem ofNode?_of_expands (h : Expands anchors n n') : ofNode? anchors n = ofNode? [] n' := by
  refine ofNode?_congr (rel_imp ?_ (rel_fields?_of_expands h))
  intro fs _ hfields
  exact ⟨fs, .refl fs, hfields.imp fun _ _ hf => ⟨hf.1, sameField_of_expands hf.2 _⟩⟩

/-- A document is read as its tree is. -/
theorem read?_of_hasTree {text : String} {t : Node} (h : HasTree text t) :
    read? text = ofNode? [] t := by
  obtain ⟨d, hd, htree⟩ := h
  rw [read?, hd]
  exact ofNode?_of_expands htree

/-- A mapping that is read as a rule has the keys of one. -/
theorem isRecord_of_ofNode? {a : Option Nat} {es : List (Node × Node)} {r : Rule}
    (h : ofNode? anchors (.mapping a es) = some r) :
    IsRecord anchors fieldNames ["alert", "expr"] es := by
  obtain ⟨fs, hfs, h⟩ := Option.bind_eq_some_iff.1 h
  obtain ⟨alert, halert, h⟩ := Option.bind_eq_some_iff.1 h
  obtain ⟨_, _, h⟩ := Option.bind_eq_some_iff.1 h
  obtain ⟨expr, hexpr, _⟩ := Option.bind_eq_some_iff.1 h
  refine isRecord_of_record? hfs ?_
  simp [halert, hexpr]

/-- What is read as a rule has a tree. -/
theorem exists_tree_of_ofNode? {r : Rule} (h : ofNode? anchors n = some r) :
    ∃ t, Expands anchors n t := by
  obtain ⟨fs, hfs, h⟩ := Option.bind_eq_some_iff.1 h
  obtain ⟨_, halert, h⟩ := Option.bind_eq_some_iff.1 h
  obtain ⟨_, halertText, h⟩ := Option.bind_eq_some_iff.1 h
  obtain ⟨_, hexpr, h⟩ := Option.bind_eq_some_iff.1 h
  obtain ⟨_, hexprText, h⟩ := Option.bind_eq_some_iff.1 h
  obtain ⟨_, hpending, h⟩ := Option.bind_eq_some_iff.1 h
  obtain ⟨_, hlabels, h⟩ := Option.bind_eq_some_iff.1 h
  obtain ⟨_, hannotations, _⟩ := Option.bind_eq_some_iff.1 h
  -- each field that a rule may have is read, and what is read has a tree
  refine exists_tree_of_record? hfs fun name hname v hv => ?_
  unfold readField? at hpending hlabels hannotations
  simp only [fieldNames, List.mem_cons, List.not_mem_nil, or_false] at hname
  rcases hname with rfl | rfl | rfl | rfl | rfl
  · cases halert.symm.trans hv
    exact exists_tree_of_text? halertText
  · cases hexpr.symm.trans hv
    exact exists_tree_of_text? hexprText
  · rw [hv] at hpending
    exact exists_tree_of_text? hpending
  · rw [hv] at hlabels
    exact exists_tree_of_labels? hlabels
  · rw [hv] at hannotations
    exact exists_tree_of_labels? hannotations

/-- Only a document with a tree is read; no alias in it stands inside the node that it refers
to. -/
theorem hasTree_of_read? {text : String} {r : Rule} (h : read? text = some r) :
    ∃ t, HasTree text t := by
  obtain ⟨d, hd, hnode⟩ := Option.bind_eq_some_iff.1 h
  obtain ⟨t, htree⟩ := exists_tree_of_ofNode? hnode
  exact ⟨t, d, hd, htree⟩

end Rule

/-! ### Groups -/

namespace RuleGroup

/-- The rules that a node lists. -/
def rules? (anchors : List (Nat × Node)) (n : Node) : Option (List Rule) := do
  (← n.items? anchors).mapM (Rule.ofNode? anchors)

/-- The values are read alike as the field of a group with this name. -/
def SameField (anchors anchors' : List (Nat × Node)) (name : String) (v v' : Node) : Prop :=
  if name = "rules" then rules? anchors v = rules? anchors' v'
  else v.text? anchors = v'.text? anchors'

theorem rules?_congr (h : Option.Rel
      (List.Forall₂ fun v v' => Rule.ofNode? anchors v = Rule.ofNode? anchors' v')
      (n.items? anchors) (n'.items? anchors')) :
    rules? anchors n = rules? anchors' n' :=
  bind_eq_of_rel h mapM_eq_of_forall₂

theorem sameField_of_expands (h : Expands anchors n n') (name : String) :
    SameField anchors [] name n n' := by
  unfold SameField
  split
  · refine rules?_congr (rel_imp ?_ (rel_items?_of_expands h))
    exact fun _ _ hitems => hitems.imp fun _ _ => Rule.ofNode?_of_expands
  · exact text?_of_expands h

theorem ofNode?_congr (h : Option.Rel (FieldsAlike (SameField anchors anchors'))
      (n.fields? anchors) (n'.fields? anchors')) :
    ofNode? anchors n = ofNode? anchors' n' := by
  refine bind_eq_of_rel (rel_record? h) fun {fs fs'} ⟨hfields, hnodup⟩ => ?_
  refine bind_eq_of_rel (hfields.rel_lookup hnodup "name") fun {v v'} hname => ?_
  rw [show v.text? anchors = v'.text? anchors' from hname]
  refine bind_congr fun name => ?_
  rw [readField?_congr hfields hnodup "interval" fun v v' hv => hv]
  refine bind_congr fun interval => ?_
  refine congrArg (· >>= _) (readField?_congr hfields hnodup "rules" fun v v' hv => ?_)
  exact (hv : rules? anchors v = rules? anchors' v')

theorem ofNode?_of_expands (h : Expands anchors n n') : ofNode? anchors n = ofNode? [] n' := by
  refine ofNode?_congr (rel_imp ?_ (rel_fields?_of_expands h))
  intro fs _ hfields
  exact ⟨fs, .refl fs, hfields.imp fun _ _ hf => ⟨hf.1, sameField_of_expands hf.2 _⟩⟩

/-- A document is read as its tree is. -/
theorem read?_of_hasTree {text : String} {t : Node} (h : HasTree text t) :
    read? text = ofNode? [] t := by
  obtain ⟨d, hd, htree⟩ := h
  rw [read?, hd]
  exact ofNode?_of_expands htree

/-- A mapping that is read as a group has the keys of one. -/
theorem isRecord_of_ofNode? {a : Option Nat} {es : List (Node × Node)} {g : RuleGroup}
    (h : ofNode? anchors (.mapping a es) = some g) :
    IsRecord anchors fieldNames ["name"] es := by
  obtain ⟨fs, hfs, h⟩ := Option.bind_eq_some_iff.1 h
  obtain ⟨name, hname, h⟩ := Option.bind_eq_some_iff.1 h
  refine isRecord_of_record? hfs ?_
  simp [hname]

/-- What stands as the rules of a mapping that is read as a group is read as rules. -/
theorem rules?_of_ofNode? {a : Option Nat} {es : List (Node × Node)} {g : RuleGroup} {k v : Node}
    (h : ofNode? anchors (.mapping a es) = some g) (hmem : (k, v) ∈ es)
    (hk : k.text? anchors = some "rules") : ∃ rs, rules? anchors v = some rs := by
  obtain ⟨fs, hfs, h⟩ := Option.bind_eq_some_iff.1 h
  obtain ⟨_, _, h⟩ := Option.bind_eq_some_iff.1 h
  obtain ⟨_, _, h⟩ := Option.bind_eq_some_iff.1 h
  obtain ⟨_, _, h⟩ := Option.bind_eq_some_iff.1 h
  obtain ⟨rs, hrs, _⟩ := Option.bind_eq_some_iff.1 h
  rw [readField?, lookup_of_record? hfs hmem hk] at hrs
  exact ⟨rs, hrs⟩

/-- What is read as a group has a tree. -/
theorem exists_tree_of_ofNode? {g : RuleGroup} (h : ofNode? anchors n = some g) :
    ∃ t, Expands anchors n t := by
  obtain ⟨fs, hfs, h⟩ := Option.bind_eq_some_iff.1 h
  obtain ⟨_, hname, h⟩ := Option.bind_eq_some_iff.1 h
  obtain ⟨_, hnameText, h⟩ := Option.bind_eq_some_iff.1 h
  obtain ⟨_, hinterval, h⟩ := Option.bind_eq_some_iff.1 h
  obtain ⟨_, hrules, _⟩ := Option.bind_eq_some_iff.1 h
  refine exists_tree_of_record? hfs fun name hmem v hv => ?_
  unfold readField? at hinterval hrules
  simp only [fieldNames, List.mem_cons, List.not_mem_nil, or_false] at hmem
  rcases hmem with rfl | rfl | rfl
  · cases hname.symm.trans hv
    exact exists_tree_of_text? hnameText
  · rw [hv] at hinterval
    exact exists_tree_of_text? hinterval
  · rw [hv] at hrules
    obtain ⟨ns, hns, hrules⟩ := Option.bind_eq_some_iff.1 hrules
    refine exists_tree_of_items? hns fun m hm => ?_
    obtain ⟨_, -, hrule⟩ := exists_mem_of_mapM hrules hm
    exact Rule.exists_tree_of_ofNode? hrule

/-- Only a document with a tree is read. -/
theorem hasTree_of_read? {text : String} {g : RuleGroup} (h : read? text = some g) :
    ∃ t, HasTree text t := by
  obtain ⟨d, hd, hnode⟩ := Option.bind_eq_some_iff.1 h
  obtain ⟨t, htree⟩ := exists_tree_of_ofNode? hnode
  exact ⟨t, d, hd, htree⟩

end RuleGroup

end AlertRules
