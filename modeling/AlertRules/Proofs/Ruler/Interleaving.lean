/-
AlertRules/Proofs/Ruler/Interleaving.lean

Several exchanges with one ruler at a time.  A pool of exchanges is served request by
request, in an order that nothing determines but that each exchange sends its own requests
in sequence (`Interleaved`).

Exchanges about different keys do not interfere.  What carries the induction over the
requests is that whatever is left of an exchange, run with the cell of its key as the ruler
then has it, comes to the same end as the whole exchange from the start.  The request that
is served next preserves this: for its own exchange because the ruler answers as the cell
does, for the others because their cells stay as they are (`served_rest`).

No order of the exchanges is special, and there is always one: a pool can be served one
exchange after another (`exists_interleaved`).
-/
import Mathlib.Logic.Function.Basic
import Mathlib.Tactic.Choose
import AlertRules.Proofs.Ruler.Cell

namespace AlertRules

open Function (update update_self update_of_ne Injective)
open Ruler (serveCell)

variable {ι : Type} [DecidableEq ι] {α σ : Type}

/-- The exchanges of a pool can be served, in some order of all of their requests, so that
they end with the results and leave the ruler in the state that is given. -/
inductive Interleaved (serve : σ → Request → Answer × σ) :
    (ι → Exchange α) → σ → (ι → α) → σ → Prop
  | finished (results : ι → α) (s : σ) :
      Interleaved serve (fun i => .done (results i)) s results s
  | served {pool : ι → Exchange α} {s s' : σ} {results : ι → α} (i : ι) {request : Request}
      {next : Answer → Exchange α} :
      pool i = .send request next →
      Interleaved serve (update pool i (next (serve s request).1)) (serve s request).2
        results s' →
      Interleaved serve pool s results s'

/-! ### There is always an order -/

/-- Exchanges that have not come to an end can be served one after another. -/
theorem exists_interleaved (serve : σ → Request → Answer × σ) (waiting : List ι)
    (pool : ι → Exchange α) (s : σ)
    (hdone : ∀ i, i ∉ waiting → ∃ a, pool i = .done a) :
    ∃ results s', Interleaved serve pool s results s' := by
  induction waiting generalizing pool s with
  | nil =>
    choose results hresults using fun i => hdone i List.not_mem_nil
    obtain rfl : pool = fun i => .done (results i) := funext hresults
    exact ⟨results, s, .finished results s⟩
  | cons j rest ih =>
    -- the first one is served to its end, by induction on what is left of it
    generalize hx : pool j = x
    induction x generalizing pool s with
    | done a =>
      refine ih pool s fun i hi => ?_
      by_cases hij : i = j
      · exact ⟨a, hij ▸ hx⟩
      · exact hdone i (by simp [hij, hi])
    | send request next ihx =>
      have hrest : ∀ i, i ∉ j :: rest →
          ∃ a, update pool j (next (serve s request).1) i = .done a := by
        intro i hi
        have hij : i ≠ j := fun hij => hi (hij ▸ .head _)
        rw [update_of_ne hij]
        exact hdone i hi
      obtain ⟨results, s', h⟩ := ihx _ _ _ hrest (update_self ..)
      exact ⟨results, s', .served j hx h⟩

/-! ### One request -/

section Keys

variable {key : ι → GroupKey} {pool : ι → Exchange α} {r : Ruler} {i : ι} {request : Request}
  {next : Answer → Exchange α}

theorem served_at (hpool : ∀ j, (pool j).At (key j)) (hi : pool i = .send request next)
    (answer : Answer) (j : ι) : (update pool i (next answer) j).At (key j) := by
  by_cases hij : j = i
  · subst hij
    rw [update_self]
    exact (Exchange.At.of_send (hi ▸ hpool j)).2 answer
  · rw [update_of_ne hij]
    exact hpool j

/-- After a request is served, the rest of every exchange comes to the end to which the
exchange came before. -/
theorem served_rest (hkey : Injective key) (hpool : ∀ j, (pool j).At (key j))
    (hr : r.IsPlain) (hi : pool i = .send request next) (j : ι) :
    (update pool i (next (r.serve request).1) j).run serveCell
        ((r.serve request).2.group? (key j)) =
      (pool j).run serveCell (r.group? (key j)) := by
  have hrequest := (Exchange.At.of_send (hi ▸ hpool i)).1
  obtain ⟨hanswer, hbecomes⟩ := Ruler.serve_cell hr hrequest
  by_cases hij : j = i
  · subst hij
    rw [update_self, hbecomes.here, hanswer, hi]
    rfl
  · rw [update_of_ne hij, hbecomes.elsewhere _ (hkey.ne hij)]

end Keys

/-! ### All requests -/

/-- However exchanges about different keys are interleaved, each comes to the end to which
it comes with the cell of its key, and every key that none of them is about stays as it
was. -/
theorem Interleaved.run_cell {key : ι → GroupKey} (hkey : Injective key)
    {pool : ι → Exchange α} (hpool : ∀ j, (pool j).At (key j)) {r r' : Ruler}
    (hr : r.IsPlain) {results : ι → α} (h : Interleaved Ruler.serve pool r results r') :
    (∀ j, (pool j).run serveCell (r.group? (key j)) = (results j, r'.group? (key j))) ∧
      ∀ other, (∀ j, other ≠ key j) → r'.group? other = r.group? other := by
  induction h with
  | finished results r => exact ⟨fun _ => rfl, fun _ _ => rfl⟩
  | @served pool r _ results i request next hi _ ih =>
    have hrequest := (Exchange.At.of_send (hi ▸ hpool i)).1
    obtain ⟨-, hbecomes⟩ := Ruler.serve_cell hr hrequest
    obtain ⟨hends, hothers⟩ := ih (served_at hpool hi _) hbecomes.plain
    constructor
    · intro j
      rw [← served_rest hkey hpool hr hi j]
      exact hends j
    · intro other hother
      exact (hothers other hother).trans (hbecomes.elsewhere other (hother i))

end AlertRules
