/-
AlertRules/Proofs/Sync/Run.lean

What bringing a definition to a ruler comes to, for a ruler that may be any function of
its own state.  An update ends in one of three ways: no group is built and nothing is
sent (`run_update_of_unbuilt`), the group is not accepted (`run_update_of_refused`), or it
is, and the answer to the second request decides (`run_update_of_pushed`).  A removal is
decided by its one answer (`run_remove`).
-/
import AlertRules.Sync

namespace AlertRules

variable {σ : Type} (serve : σ → Request → Answer × σ)

theorem Exchange.run_map {α β : Type} (f : α → β) (x : Exchange α) (s : σ) :
    (x.map f).run serve s = (f (x.run serve s).1, (x.run serve s).2) :=
  run_bind serve x _ s

namespace Client

variable (c : Client) {d : Definition} {g : RuleGroup} {e : SyncError}

theorem update_of_unbuilt (h : d.group = .error e) : c.update d = .done (.error e) := by
  rw [update, h]

theorem update_of_built (h : d.group = .ok g) :
    c.update d = (c.push g d.tenant).andThen fun _ =>
      (c.verify g d.tenant).map fun result => result.map fun _ => g := by
  rw [update, h]

theorem run_update_of_unbuilt (h : d.group = .error e) (s : σ) :
    (c.update d).run serve s = (.error e, s) := by
  rw [c.update_of_unbuilt h]
  rfl

theorem run_update_of_refused (h : d.group = .ok g) (s : σ)
    (hpush : pushed g.name (serve s (c.pushRequest g d.tenant)).1 = .error e) :
    (c.update d).run serve s = (.error e, (serve s (c.pushRequest g d.tenant)).2) := by
  rw [c.update_of_built h, Exchange.andThen, Exchange.run_bind, push, Exchange.run_ask, hpush]
  rfl

theorem run_update_of_pushed (h : d.group = .ok g) (s : σ)
    (hpush : pushed g.name (serve s (c.pushRequest g d.tenant)).1 = .ok ()) :
    (c.update d).run serve s =
      let (answer, s') := serve (serve s (c.pushRequest g d.tenant)).2
        (c.fetchRequest g.name d.tenant)
      ((verified g answer).map fun _ => g, s') := by
  rw [c.update_of_built h, Exchange.andThen, Exchange.run_bind, push, Exchange.run_ask, hpush]
  exact Exchange.run_map serve _ _ _

theorem run_remove (id : DefinitionId) (tenant : String) (s : σ) :
    (c.remove id tenant).run serve s =
      let (answer, s') := serve s (c.deleteRequest id.render tenant)
      (deleted id.render answer, s') := rfl

/-! ### Following a row -/

variable (tenant : String) (id : DefinitionId)

theorem run_syncWith_unread (e : Definition.Error) (s : σ) :
    (c.syncWith (.error e) tenant id).run serve s = (.error (.store e), s) := rfl

theorem run_syncWith_row (d : Definition) (s : σ) :
    (c.syncWith (.ok (some d)) tenant id).run serve s =
      (((c.update d).run serve s).1.map .updated, ((c.update d).run serve s).2) :=
  Exchange.run_map serve _ _ s

theorem run_syncWith_none (s : σ) :
    (c.syncWith (.ok none) tenant id).run serve s =
      (((c.remove id tenant).run serve s).1.map fun _ => .removed id.render,
        ((c.remove id tenant).run serve s).2) :=
  Exchange.run_map serve _ _ s

end Client

end AlertRules
