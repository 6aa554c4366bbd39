/-
AlertRules/Labels.lean

Maps from texts to texts, as labels and annotations are.  A map is a list of
entries in increasing order of their keys, so that two maps with the same
entries are equal and every listing of a map comes in the same order.
-/
import AlertRules.Text.Order

namespace AlertRules

@[ext] structure Labels where
  entries : List (String × String)
  sorted : entries.Pairwise fun a b => Text.precedes a.1 b.1 = true
  deriving DecidableEq, Repr

namespace Labels

def empty : Labels := ⟨[], .nil⟩

instance : Inhabited Labels := ⟨empty⟩

def isEmpty (m : Labels) : Bool := m.entries.isEmpty

def get? (m : Labels) (key : String) : Option String := m.entries.lookup key

/-! ### Insertion -/

/-- Puts an entry into its place, where it replaces one with the same key. -/
def insertEntry (key value : String) : List (String × String) → List (String × String)
  | [] => [(key, value)]
  | e :: r =>
    if Text.precedes key e.1 then (key, value) :: e :: r
    else if Text.precedes e.1 key then e :: insertEntry key value r
    else (key, value) :: r

theorem insertEntry_above {b key value : String} {es : List (String × String)}
    (hk : Text.precedes b key = true) (h : ∀ e ∈ es, Text.precedes b e.1 = true) :
    ∀ e ∈ insertEntry key value es, Text.precedes b e.1 = true := by
  induction es with
  | nil => simpa [insertEntry] using hk
  | cons a r ih =>
    rw [List.forall_mem_cons] at h
    unfold insertEntry
    split
    · exact List.forall_mem_cons.2 ⟨hk, List.forall_mem_cons.2 h⟩
    · split
      · exact List.forall_mem_cons.2 ⟨h.1, ih h.2⟩
      · exact List.forall_mem_cons.2 ⟨hk, h.2⟩

theorem insertEntry_sorted {key value : String} {es : List (String × String)}
    (h : es.Pairwise fun a b => Text.precedes a.1 b.1 = true) :
    (insertEntry key value es).Pairwise fun a b => Text.precedes a.1 b.1 = true := by
  induction es with
  | nil => simp [insertEntry]
  | cons a r ih =>
    rw [List.pairwise_cons] at h
    unfold insertEntry
    split
    · next hlt =>
      refine List.pairwise_cons.2 ⟨?_, List.pairwise_cons.2 h⟩
      exact List.forall_mem_cons.2 ⟨hlt, fun e he => Text.precedes_trans hlt (h.1 e he)⟩
    · next hge =>
      split
      · next hlt => exact List.pairwise_cons.2 ⟨insertEntry_above hlt h.1, ih h.2⟩
      · next hle =>
        have : a.1 = key :=
          Text.eq_of_not_precedes (Bool.eq_false_iff.2 hle) (Bool.eq_false_iff.2 hge)
        exact List.pairwise_cons.2 ⟨fun e he => this ▸ h.1 e he, h.2⟩

def insert (m : Labels) (key value : String) : Labels :=
  ⟨insertEntry key value m.entries, insertEntry_sorted m.sorted⟩

def erase (m : Labels) (key : String) : Labels :=
  ⟨m.entries.filter fun e => e.1 ≠ key, m.sorted.filter _⟩

/-- The map of a list of entries; of entries with the same key the last counts. -/
def ofList (es : List (String × String)) : Labels :=
  es.foldl (fun m e => m.insert e.1 e.2) empty

end Labels

end AlertRules
