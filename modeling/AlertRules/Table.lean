/-
AlertRules/Table.lean

Finite tables: at most one value for each key, in no order that matters.  What an
operation does is said through `get?` alone (`get?_insert`, `get?_erase`); the
distinctness of the keys is part of the type, so `size` counts keys.
-/

namespace AlertRules

structure Table (κ α : Type) where
  entries : List (κ × α)
  nodup : (entries.map Prod.fst).Nodup

namespace Table

variable {κ α : Type} [DecidableEq κ]

def empty : Table κ α := ⟨[], .nil⟩

instance : Inhabited (Table κ α) := ⟨empty⟩

/-- The value of a key. -/
def get? (t : Table κ α) (key : κ) : Option α := t.entries.lookup key

/-- The number of keys. -/
def size (t : Table κ α) : Nat := t.entries.length

def isEmpty (t : Table κ α) : Bool := t.entries.isEmpty

def erase (t : Table κ α) (key : κ) : Table κ α where
  entries := t.entries.filter fun e => e.1 ≠ key
  nodup := t.nodup.sublist ((List.filter_sublist).map Prod.fst)

/-- Puts a value in the place of the one that the key had. -/
def insert (t : Table κ α) (key : κ) (value : α) : Table κ α where
  entries := (key, value) :: (t.erase key).entries
  nodup := by
    refine List.nodup_cons.2 ⟨?_, (t.erase key).nodup⟩
    simp [erase]

/-! ### What a key has afterwards -/

@[simp] theorem get?_empty (key : κ) : (empty : Table κ α).get? key = none := rfl

theorem lookup_filter_ne (key other : κ) (es : List (κ × α)) :
    (es.filter fun e => e.1 ≠ key).lookup other =
      if other = key then none else es.lookup other := by
  induction es with
  | nil => simp
  | cons e r ih =>
    by_cases he : e.1 = key
    · rw [List.filter_cons_of_neg (by simpa using he), ih]
      split
      · rfl
      · next h => rw [List.lookup_cons, beq_eq_false_iff_ne.2 fun hk => h (hk.trans he)]
    · rw [List.filter_cons_of_pos (by simpa using he), List.lookup_cons, List.lookup_cons, ih]
      by_cases ho : other = e.1
      · have : other ≠ key := fun h => he (ho ▸ h)
        simp [ho, he]
      · simp [beq_eq_false_iff_ne.2 ho]

theorem get?_erase (t : Table κ α) (key other : κ) :
    (t.erase key).get? other = if other = key then none else t.get? other :=
  lookup_filter_ne key other t.entries

theorem get?_insert (t : Table κ α) (key other : κ) (value : α) :
    (t.insert key value).get? other = if other = key then some value else t.get? other := by
  show ((key, value) :: (t.erase key).entries).lookup other = _
  rw [List.lookup_cons]
  by_cases h : other = key
  · simp [h]
  · rw [beq_eq_false_iff_ne.2 h, if_neg h]
    exact (get?_erase t key other).trans (if_neg h)

end Table

end AlertRules
