/-
AlertRules/Proofs/Sync/Concurrent.lean

Bringing several definitions to one ruler at a time.  Each task is an update or a removal
by some client (`Task`); no two of them are about the same identifier for the same
organisation, so no two are about the same key of the ruler.  However their requests are
interleaved, each task has the result that it has alone, and the ruler ends up with what
each of them leaves under its own key (`Task.concurrent_independent`).

There is nothing here about time: an interleaving is an order of requests, and between a
push and the read that verifies it the ruler may serve any number of others.
-/
import AlertRules.Proofs.Ruler.Interleaving
import AlertRules.Proofs.Sync.Cell

namespace AlertRules

open Function (Injective)

/-- An operation, and the client that carries it out. -/
structure Task where
  client : Client
  op : Operation

namespace Task

def exchange (t : Task) : Exchange (Except SyncError SyncOutcome) := t.client.carryOut t.op

/-- The organisation for which a task is, and the identifier that it is about. -/
def subject (t : Task) : String × DefinitionId :=
  (t.client.tenancy.orgId t.op.tenant, t.op.id)

/-- Where a ruler keeps the group of a task. -/
def key (t : Task) : GroupKey := t.client.keyOf t.op

theorem key_eq (t : Task) :
    t.key = ⟨t.subject.1, t.client.nameSpace, t.subject.2.render⟩ := rfl

variable {ι : Type} {nameSpace : String} {tasks : ι → Task}

/-- In one namespace the tasks about different subjects have different keys. -/
theorem key_injective (hspace : ∀ i, (tasks i).client.nameSpace = nameSpace)
    (hsubjects : Injective fun i => (tasks i).subject) : Injective fun i => (tasks i).key := by
  intro i j hij
  simp only [key_eq, hspace, GroupKey.mk.injEq] at hij
  obtain ⟨horg, -, hid⟩ := hij
  exact hsubjects (Prod.ext horg (DefinitionId.render_injective hid))

/-- However the requests of tasks about different subjects are interleaved, each task has
the result that it has alone from the beginning; then every key of a task has what the task
leaves there, the built group or none, and every other key has what it had. -/
theorem concurrent_independent [DecidableEq ι] (hspace : IsPiece nameSpace)
    (hclients : ∀ i, (tasks i).client.nameSpace = nameSpace)
    (hread : ∀ i, (tasks i).op.IsLegible)
    (hsubjects : Injective fun i => (tasks i).subject)
    {r r' : Ruler} (hr : r.IsPlain) {results : ι → Except SyncError SyncOutcome}
    (h : Interleaved Ruler.serve (fun i => (tasks i).exchange) r results r') :
    (∀ i, results i = ((tasks i).exchange.run Ruler.serve r).1) ∧
    (∀ i, r'.group? (tasks i).key = (tasks i).op.leaves (r.group? (tasks i).key)) ∧
    ∀ key, (∀ i, key ≠ (tasks i).key) → r'.group? key = r.group? key := by
  have hpiece : ∀ i, IsPiece (tasks i).client.nameSpace := fun i => (hclients i).symm ▸ hspace
  have hat : ∀ i, (tasks i).exchange.At (tasks i).key := fun i =>
    Client.carryOut_at (hpiece i) (hread i)
  obtain ⟨hends, hothers⟩ := h.run_cell (key_injective hclients hsubjects) hat hr
  refine ⟨?_, ?_, hothers⟩
  · intro i
    rw [(Exchange.run_cell (hat i) hr).1, hends i]
  · intro i
    have hend := hends i
    simp only [exchange, Client.carryOut_cell (hpiece i) (hread i)] at hend
    exact (Prod.ext_iff.1 hend).2.symm

/-- One tenant's update and another's removal of the same identifier, in an order of their
requests that there is. -/
theorem concurrent_two_tenants :
    let d : Definition := ⟨⟨List.replicate 32 1, by decide⟩, "one", "alert: A\nexpr: up", 15, {}⟩
    let tasks (b : Bool) : Task :=
      ⟨⟨"alerts", .standard⟩, cond b (.update d) (.remove "two" d.id)⟩
    IsPiece "alerts" ∧ (∀ b, (tasks b).op.IsLegible) ∧
      Injective (fun b => (tasks b).subject) ∧ Ruler.empty.IsPlain ∧
      ∃ results r', Interleaved Ruler.serve (fun b => (tasks b).exchange) Ruler.empty results r' ∧
        (∀ b, results b = ((tasks b).exchange.run Ruler.serve Ruler.empty).1) ∧
        r'.group? ⟨"one", "alerts", d.id.render⟩ = d.group.toOption := by
  intro d tasks
  have hspace : IsPiece "alerts" := ⟨by decide, by decide⟩
  have hd : d.IsLegible := by decide +kernel
  have hread : ∀ b, (tasks b).op.IsLegible := by
    intro b
    cases b with
    | false => trivial
    | true => exact hd
  have hsubjects : Injective (fun b => (tasks b).subject) := by
    intro a b hab
    revert a b
    decide +kernel
  obtain ⟨results, r', h⟩ := exists_interleaved Ruler.serve [true, false]
    (fun b => (tasks b).exchange) Ruler.empty (by simp)
  obtain ⟨halone, hleft, -⟩ :=
    concurrent_independent hspace (fun _ => rfl) hread hsubjects Ruler.isPlain_empty h
  refine ⟨hspace, hread, hsubjects, Ruler.isPlain_empty, results, r', h, halone, ?_⟩
  refine (hleft true).trans ?_
  show (Operation.update d).leaves _ = _
  rw [Operation.leaves, Ruler.group?_empty]
  cases d.group <;> rfl

end Task

end AlertRules
