/-
AlertRules/Proofs/Labels.lean

Maps of labels through their look-ups.  A look-up finds exactly the entries of a map
(`get?_eq_some_iff`), and since the entries stand in one order only, a map is
determined by its look-ups (`ext_get?`).  Inserting changes the look-up of one key
(`get?_insert`).  A map is also the map of its own entries (`ofList_entries`), and
the map of entries with distinct keys in any order (`ofList_perm`).
-/
import Mathlib.Data.List.Induction
import Mathlib.Data.List.Nodup
import AlertRules.Labels

namespace AlertRules.Labels

/-! ### Look-ups by distinct keys -/

section Lookup

variable {α : Type}

theorem lookup_cons_eq (e : String × α) (r : List (String × α)) (key : String) :
    (e :: r).lookup key = if key = e.1 then some e.2 else r.lookup key := by
  rw [List.lookup_cons]
  by_cases hkey : key = e.1
  · rw [if_pos hkey, beq_iff_eq.2 hkey]
  · rw [if_neg hkey, beq_eq_false_iff_ne.2 hkey]

theorem lookup_eq_some_iff_mem {es : List (String × α)} (h : (es.map Prod.fst).Nodup)
    {key : String} {value : α} : es.lookup key = some value ↔ (key, value) ∈ es := by
  induction es with
  | nil => simp
  | cons e r ih =>
    obtain ⟨key', value'⟩ := e
    rw [List.map_cons, List.nodup_cons] at h
    rw [lookup_cons_eq, List.mem_cons]
    by_cases hkey : key = key'
    · subst hkey
      have hmore : (key, value) ∉ r := fun hmem => h.1 (List.mem_map.2 ⟨_, hmem, rfl⟩)
      simp [hmore, eq_comm]
    · simp [hkey, ih h.2]

/-- Where keys are distinct, the order of the entries makes no difference to a look-up. -/
theorem lookup_perm {es es' : List (String × α)} (hperm : es.Perm es')
    (h : (es.map Prod.fst).Nodup) (key : String) : es.lookup key = es'.lookup key := by
  have h' : (es'.map Prod.fst).Nodup := (hperm.map Prod.fst).nodup_iff.1 h
  ext value
  rw [lookup_eq_some_iff_mem h, lookup_eq_some_iff_mem h', hperm.mem_iff]

end Lookup

/-- The keys of a map are in strict order, so none occurs twice. -/
theorem nodup_keys (m : Labels) : (m.entries.map Prod.fst).Nodup := by
  refine List.pairwise_map.2 (m.sorted.imp ?_)
  intro a b hab h
  rw [h, Text.precedes_irrefl] at hab
  cases hab

theorem get?_eq_some_iff {m : Labels} {key value : String} :
    m.get? key = some value ↔ (key, value) ∈ m.entries :=
  lookup_eq_some_iff_mem m.nodup_keys

theorem ext_get? {m n : Labels} (h : ∀ key, m.get? key = n.get? key) : m = n := by
  have hmem : ∀ e, e ∈ m.entries ↔ e ∈ n.entries := by
    rintro ⟨key, value⟩
    rw [← get?_eq_some_iff, h key, get?_eq_some_iff]
  have hperm : m.entries.Perm n.entries :=
    (List.perm_ext_iff_of_nodup (.of_map _ m.nodup_keys) (.of_map _ n.nodup_keys)).2 hmem
  refine Labels.ext (hperm.eq_of_pairwise ?_ m.sorted n.sorted)
  -- no two entries precede each other
  intro a b _ _ hab hba
  have hself := Text.precedes_trans hab hba
  rw [Text.precedes_irrefl] at hself
  cases hself

/-! ### Insertion -/

theorem lookup_insertEntry (key value other : String) (es : List (String × String)) :
    (insertEntry key value es).lookup other =
      if other = key then some value else es.lookup other := by
  induction es with
  | nil => exact lookup_cons_eq _ _ _
  | cons e r ih =>
    unfold insertEntry
    split
    · exact lookup_cons_eq _ _ _
    rw [lookup_cons_eq e r]
    split
    · next hafter =>
      have hne : e.1 ≠ key := by
        intro hkey
        rw [hkey, Text.precedes_irrefl] at hafter
        cases hafter
      rw [lookup_cons_eq, ih]
      by_cases hother : other = e.1
      · rw [if_pos hother, if_neg (hother ▸ hne), if_pos hother]
      · rw [if_neg hother, if_neg hother]
    · next hbefore hafter =>
      have hkey : e.1 = key :=
        Text.eq_of_not_precedes (Bool.eq_false_iff.2 hafter) (Bool.eq_false_iff.2 hbefore)
      rw [lookup_cons_eq, hkey]
      by_cases hother : other = key
      · rw [if_pos hother, if_pos hother]
      · rw [if_neg hother, if_neg hother, if_neg hother]

theorem get?_insert (m : Labels) (key value other : String) :
    (m.insert key value).get? other = if other = key then some value else m.get? other :=
  lookup_insertEntry key value other m.entries

/-! ### Maps from their entries -/

/-- An entry behind all others comes last. -/
theorem insertEntry_of_above {key value : String} {es : List (String × String)}
    (h : ∀ e ∈ es, Text.precedes e.1 key = true) :
    insertEntry key value es = es ++ [(key, value)] := by
  induction es with
  | nil => rfl
  | cons e es ih =>
    rw [List.forall_mem_cons] at h
    have hnot : Text.precedes key e.1 = false := by
      rw [Bool.eq_false_iff]
      intro hkey
      have hself := Text.precedes_trans hkey h.1
      rw [Text.precedes_irrefl] at hself
      cases hself
    simp only [insertEntry, hnot, h.1, Bool.false_eq_true, if_false, if_true, ih h.2,
      List.cons_append]

theorem entries_foldl_insert {m : Labels} {es : List (String × String)}
    (h : (m.entries ++ es).Pairwise fun a b => Text.precedes a.1 b.1 = true) :
    (es.foldl (fun m e => m.insert e.1 e.2) m).entries = m.entries ++ es := by
  induction es generalizing m with
  | nil => simp
  | cons e es ih =>
    have hinsert : (m.insert e.1 e.2).entries = m.entries ++ [e] :=
      insertEntry_of_above fun e' he' =>
        (List.pairwise_append.1 h).2.2 e' he' e List.mem_cons_self
    have hmore : ((m.insert e.1 e.2).entries ++ es).Pairwise
        fun a b => Text.precedes a.1 b.1 = true := by
      rwa [hinsert, List.append_assoc, List.singleton_append]
    rw [List.foldl_cons, ih hmore, hinsert, List.append_assoc, List.singleton_append]

/-- A map is the map of its entries. -/
theorem ofList_entries (m : Labels) : ofList m.entries = m :=
  Labels.ext (entries_foldl_insert m.sorted)

/-- Of entries with the same key the last counts. -/
theorem get?_ofList (es : List (String × String)) (key : String) :
    (ofList es).get? key = es.reverse.lookup key := by
  induction es using List.reverseRecOn with
  | nil => rfl
  | append_singleton es e ih =>
    have hlast : ofList (es ++ [e]) = (ofList es).insert e.1 e.2 := List.foldl_concat _ _ _ _
    rw [hlast, get?_insert, ih, List.reverse_concat, lookup_cons_eq]

/-- Where keys are distinct, the order of the entries makes no difference to their map. -/
theorem ofList_perm {es es' : List (String × String)} (hperm : es.Perm es')
    (h : (es.map Prod.fst).Nodup) : ofList es = ofList es' := by
  refine ext_get? fun key => ?_
  have hreverse : es.reverse.Perm es'.reverse :=
    (es.reverse_perm.trans hperm).trans es'.reverse_perm.symm
  have hnodup : (es.reverse.map Prod.fst).Nodup :=
    (es.reverse_perm.map Prod.fst).nodup_iff.2 h
  rw [get?_ofList, get?_ofList, lookup_perm hreverse hnodup]

theorem eq_empty_of_isEmpty {m : Labels} (h : m.isEmpty = true) : m = .empty :=
  Labels.ext (List.isEmpty_iff.1 h)

end AlertRules.Labels
