/-
AlertRules/Proofs/Ruler/Interference.lean

An exchange among the requests of others.  Before each request of the exchange the ruler may
serve any others, whoever sends them and whatever they ask for; `RunsAmong` keeps a log of the
exchange's own requests, each with the state in which the ruler served it.  Nothing is said
about what the others leave in that state, so what holds of every such run holds under any
interference.  In particular an exchange of a pool runs among the requests of the rest of the
pool (`Interleaved.runsAmong`).

What interference cannot do is to set a ruler up: one that is plain stays plain whatever it
is asked, so every state of the log is plain (`RunsAmong.isPlain`).
-/
import AlertRules.Proofs.Ruler.Interleaving

namespace AlertRules

open Function (update update_self update_of_ne)

namespace Exchange

variable {α σ : Type}

/-- The state after a list of requests. -/
def after (serve : σ → Request → Answer × σ) (s : σ) (requests : List Request) : σ :=
  requests.foldl (fun s request => (serve s request).2) s

theorem after_nil (serve : σ → Request → Answer × σ) (s : σ) : after serve s [] = s := rfl

theorem after_concat (serve : σ → Request → Answer × σ) (s : σ) (requests : List Request)
    (request : Request) :
    after serve s (requests ++ [request]) = (serve (after serve s requests) request).2 := by
  rw [after, List.foldl_append]
  rfl

/-- The exchange ends with a result and sends the requests of the log, each served in the
state that stands beside it. -/
inductive RunsAmong (serve : σ → Request → Answer × σ) :
    Exchange α → σ → α → List (Request × σ) → Prop
  | done (a : α) (s : σ) : RunsAmong serve (.done a) s a []
  | send {request : Request} {next : Answer → Exchange α} {s : σ} {a : α}
      {log : List (Request × σ)} (others : List Request) :
      RunsAmong serve (next (serve (after serve s others) request).1)
        (serve (after serve s others) request).2 a log →
      RunsAmong serve (.send request next) s a ((request, after serve s others) :: log)

variable {serve : σ → Request → Answer × σ} {x : Exchange α} {s : σ} {a : α}
  {log : List (Request × σ)}

/-- A request that is served before the exchange starts is one of the others. -/
theorem RunsAmong.of_served {request : Request} (h : x.RunsAmong serve (serve s request).2 a log) :
    ∃ log, x.RunsAmong serve s a log := by
  cases h with
  | done => exact ⟨_, .done a s⟩
  | send others hrest => exact ⟨_, .send (request :: others) hrest⟩

section Invariant

variable {P : σ → Prop} (hP : ∀ s request, P s → P (serve s request).2)

include hP

/-- A property of states that every request preserves holds after any requests. -/
theorem after_invariant (hs : P s) (requests : List Request) : P (after serve s requests) := by
  induction requests generalizing s with
  | nil => exact hs
  | cons request requests ih => exact ih (hP s request hs)

/-- It also holds in all states of the log. -/
theorem RunsAmong.invariant (hs : P s) (h : x.RunsAmong serve s a log) : ∀ e ∈ log, P e.2 := by
  induction h with
  | done => nofun
  | @send request _ s _ _ others _ ih =>
    have hhere : P (after serve s others) := after_invariant hP hs others
    exact List.forall_mem_cons.2 ⟨hhere, ih (hP _ request hhere)⟩

end Invariant

end Exchange

/-- To an exchange of a pool the requests of the others are interference. -/
theorem Interleaved.runsAmong {ι α σ : Type} [DecidableEq ι]
    {serve : σ → Request → Answer × σ} {pool : ι → Exchange α} {s s' : σ} {results : ι → α}
    (h : Interleaved serve pool s results s') (i : ι) :
    ∃ log, (pool i).RunsAmong serve s (results i) log := by
  induction h with
  | finished results s => exact ⟨_, .done (results i) s⟩
  | @served pool s _ _ j request next hj _ ih =>
    obtain ⟨log, hlog⟩ := ih
    by_cases hij : i = j
    · subst hij
      rw [update_self] at hlog
      rw [hj]
      exact ⟨_, .send [] hlog⟩
    · rw [update_of_ne hij] at hlog
      exact hlog.of_served

/-! ### Plain rulers -/

namespace Ruler

variable {r : Ruler}

/-- No request sets anything that changes what a ruler does. -/
theorem IsPlain.serve (h : r.IsPlain) (request : Request) : (r.serve request).2.IsPlain := by
  obtain ⟨-, hforced, hecho⟩ := handle_settings r request
  exact ⟨fun method => (congrArg (Table.get? · method) hforced).trans (h.forced method),
    hecho.trans h.echo⟩

theorem IsPlain.after (h : r.IsPlain) (requests : List Request) :
    (Exchange.after Ruler.serve r requests).IsPlain :=
  Exchange.after_invariant (fun _ request hr => hr.serve request) h requests

end Ruler

theorem Exchange.RunsAmong.isPlain {α : Type} {x : Exchange α} {r : Ruler} {a : α}
    {log : List (Request × Ruler)} (hr : r.IsPlain) (h : x.RunsAmong Ruler.serve r a log) :
    ∀ e ∈ log, e.2.IsPlain :=
  h.invariant (fun _ request hr => hr.serve request) hr

end AlertRules
