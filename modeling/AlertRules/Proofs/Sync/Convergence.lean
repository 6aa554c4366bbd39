/-
AlertRules/Proofs/Sync/Convergence.lean

A ruler follows a store of definitions.  Rows are written and taken out, and keys are
synced, in any order and any number of times (`Action`); a `World` is the store, the ruler,
and the record of all syncs so far, the latest first.

What holds of every world that can be reached is `World.Settled`: under the identifier of a
definition the ruler has what the last successful sync of it left there (`lastLeft`), and
every sync had the result that the row it found calls for.  It holds of the empty world, one
action preserves it (`act_settled`), and so does a run (`acts_settled`).

Two tenants may be one organisation, and then they share their keys in the ruler, though
not in the store; this is why the last sync is looked for by organisation.
-/
import AlertRules.Proofs.Sync.Cell

namespace AlertRules

/-! ### Worlds -/

/-- A sync that has come to an end: the row that it found, and its result. -/
structure SyncRecord where
  tenant : String
  id : DefinitionId
  row : Option Definition
  result : Except SyncError SyncOutcome

/-- The group that is in the ruler after a successful sync. -/
def SyncRecord.left (s : SyncRecord) : Option RuleGroup := Operation.leftBy none s.result

/-- What the last successful sync of an identifier for an organisation left behind, the
latest sync being the first of the list. -/
def lastLeft (t : Tenancy) (org : String) (id : DefinitionId) :
    List SyncRecord → Option RuleGroup
  | [] => none
  | s :: earlier =>
    if t.orgId s.tenant = org ∧ s.id = id ∧ s.result.isOk = true then s.left
    else lastLeft t org id earlier

/-- A store of definitions, a ruler, and the syncs from the one to the other. -/
structure World where
  definitions : Definitions
  ruler : Ruler
  syncs : List SyncRecord

/-- The world in which there is nothing yet. -/
def World.start : World := ⟨.empty, .empty, []⟩

inductive Action
  | upsert (d : Definition)
  | remove (tenant : String) (id : DefinitionId)
  | sync (tenant : String) (id : DefinitionId)

namespace Client

def act (c : Client) (w : World) : Action → World
  | .upsert d => { w with definitions := w.definitions.upsert d }
  | .remove tenant id => { w with definitions := w.definitions.remove tenant id }
  | .sync tenant id =>
    let run := (c.sync w.definitions tenant id).run Ruler.serve w.ruler
    ⟨w.definitions, run.2, ⟨tenant, id, w.definitions.get? tenant id, run.1⟩ :: w.syncs⟩

def acts (c : Client) (actions : List Action) : World := actions.foldl c.act .start

end Client

/-! ### The invariant -/

/-- Every row is stored under its own tenant and identifier, and can be pushed. -/
def Definitions.IsKeyed (s : Definitions) : Prop :=
  ∀ tenant id d, s.get? tenant id = some d → d.tenant = tenant ∧ d.id = id ∧ d.IsLegible

/-- What holds of every world that can be reached. -/
structure World.Settled (c : Client) (w : World) : Prop where
  keyed : w.definitions.IsKeyed
  plain : w.ruler.IsPlain
  kept : ∀ org id, w.ruler.group? ⟨org, c.nameSpace, id.render⟩ =
    lastLeft c.tenancy org id w.syncs
  recorded : ∀ s ∈ w.syncs, s.result = (Operation.ofRow s.tenant s.id s.row).result

theorem World.start_settled (c : Client) : World.start.Settled c where
  keyed := by
    intro tenant id d hd
    cases hd
  plain := Ruler.isPlain_empty
  kept _ _ := Ruler.group?_empty _
  recorded _ hs := absurd hs List.not_mem_nil

namespace Definitions.IsKeyed

variable {s : Definitions}

theorem upsert (h : s.IsKeyed) {d : Definition} (hd : d.IsLegible) : (s.upsert d).IsKeyed := by
  intro tenant id row hrow
  rw [get?_upsert] at hrow
  split at hrow
  · next hkey =>
    cases hkey
    cases hrow
    exact ⟨rfl, rfl, hd⟩
  · exact h tenant id row hrow

theorem remove (h : s.IsKeyed) (tenant : String) (id : DefinitionId) :
    (s.remove tenant id).IsKeyed := by
  intro t i row hrow
  rw [get?_remove] at hrow
  split at hrow
  · cases hrow
  · exact h t i row hrow

/-- A sync in such a store is for the key that it is asked for. -/
theorem ofRow (h : s.IsKeyed) (tenant : String) (id : DefinitionId) :
    (Operation.ofRow tenant id (s.get? tenant id)).tenant = tenant ∧
      (Operation.ofRow tenant id (s.get? tenant id)).id = id ∧
      (Operation.ofRow tenant id (s.get? tenant id)).IsLegible := by
  cases hrow : s.get? tenant id with
  | none => exact ⟨rfl, rfl, trivial⟩
  | some d => exact h tenant id d hrow

end Definitions.IsKeyed

/-! ### One action -/

theorem lastLeft_cons {t : Tenancy} {org : String} {id : DefinitionId} {s : SyncRecord}
    (h : t.orgId s.tenant = org ∧ s.id = id) (earlier : List SyncRecord) :
    lastLeft t org id (s :: earlier) =
      Operation.leftBy (lastLeft t org id earlier) s.result := by
  rw [lastLeft, SyncRecord.left]
  rcases hresult : s.result with e | (g | name)
  · exact if_neg fun hall => Bool.false_ne_true hall.2.2
  · exact if_pos ⟨h.1, h.2, rfl⟩
  · exact if_pos ⟨h.1, h.2, rfl⟩

/-- A sync whose result is that of the operation for its row removes what has no row, and
updates with the group that is built for the row. -/
theorem SyncRecord.spec {s : SyncRecord}
    (h : s.result = (Operation.ofRow s.tenant s.id s.row).result) :
    (s.row = none → s.result = .ok (.removed s.id.render)) ∧
      (∀ d g, s.row = some d → d.group = .ok g → s.result = .ok (.updated g)) ∧
      ∀ g, s.result = .ok (.updated g) → ∃ d, s.row = some d ∧ d.group = .ok g := by
  rw [h]
  refine ⟨?_, ?_, ?_⟩
  · intro hrow
    rw [hrow]
    rfl
  · intro d g hrow hbuild
    rw [hrow, Operation.ofRow, Operation.result, hbuild]
    rfl
  · intro g hresult
    cases hrow : s.row with
    | none =>
      rw [hrow] at hresult
      cases hresult
    | some d =>
      rw [hrow] at hresult
      obtain ⟨g', hbuild, hg'⟩ := Outcome.map_eq_ok_iff.1 hresult
      cases hg'
      exact ⟨d, rfl, hbuild⟩

namespace Client

variable {c : Client} {w : World}

/-- A sync has the result that its row calls for, and changes the one key. -/
theorem sync_ruler (hc : IsPiece c.nameSpace) (hw : w.Settled c) (tenant : String)
    (id : DefinitionId) :
    let op := Operation.ofRow tenant id (w.definitions.get? tenant id)
    let key := c.key tenant id.render
    ((c.sync w.definitions tenant id).run Ruler.serve w.ruler).1 = op.result ∧
      w.ruler.Becomes key (op.leaves (w.ruler.group? key))
        ((c.sync w.definitions tenant id).run Ruler.serve w.ruler).2 := by
  intro op key
  obtain ⟨htenant, hid, hlegible⟩ := hw.keyed.ofRow tenant id
  have hkey : c.keyOf op = key := by
    rw [keyOf, htenant, hid]
  have hrun := carryOut_ruler hc hlegible hw.plain
  rw [sync_eq_carryOut, ← hkey]
  exact hrun

theorem sync_settled (hc : IsPiece c.nameSpace) (hw : w.Settled c) (tenant : String)
    (id : DefinitionId) : (c.act w (.sync tenant id)).Settled c := by
  obtain ⟨hresult, hbecomes⟩ := sync_ruler hc hw tenant id
  refine ⟨hw.keyed, hbecomes.plain, ?_, ?_⟩
  · intro org id'
    rw [act]
    by_cases hkey : c.tenancy.orgId tenant = org ∧ id = id'
    · -- the key of the sync: what was there stays only if the sync was in vain
      rw [lastLeft_cons hkey, key_inj.2 hkey, hbecomes.here, Operation.leaves_eq, hresult,
        ← hw.kept, key_inj.2 hkey]
    · -- any other key: the sync neither changes it nor counts for it
      rw [lastLeft, hbecomes.elsewhere _ (mt key_inj.1 hkey), hw.kept, if_neg]
      rintro ⟨horg, hid, -⟩
      exact hkey ⟨horg, hid⟩
  · intro s hs
    rcases List.mem_cons.1 hs with rfl | hs
    · exact hresult
    · exact hw.recorded s hs

/-- One action preserves what holds of a settled world. -/
theorem act_settled (hc : IsPiece c.nameSpace) (hw : w.Settled c) {action : Action}
    (hread : ∀ d, action = .upsert d → d.IsLegible) : (c.act w action).Settled c := by
  cases action with
  | upsert d => exact ⟨hw.keyed.upsert (hread d rfl), hw.plain, hw.kept, hw.recorded⟩
  | remove tenant id => exact ⟨hw.keyed.remove tenant id, hw.plain, hw.kept, hw.recorded⟩
  | sync tenant id => exact sync_settled hc hw tenant id

/-! ### Runs -/

theorem foldl_settled (hc : IsPiece c.nameSpace) {actions : List Action}
    (hread : ∀ d, .upsert d ∈ actions → d.IsLegible) (hw : w.Settled c) :
    (actions.foldl c.act w).Settled c := by
  induction actions generalizing w with
  | nil => exact hw
  | cons action rest ih =>
    have hrest : ∀ d, .upsert d ∈ rest → d.IsLegible := fun d hd => hread d (.tail _ hd)
    apply ih hrest
    apply act_settled hc hw
    rintro d rfl
    exact hread d (.head _)

theorem acts_settled (hc : IsPiece c.nameSpace) {actions : List Action}
    (hread : ∀ d, .upsert d ∈ actions → d.IsLegible) : (c.acts actions).Settled c :=
  foldl_settled hc hread (World.start_settled c)

/-- A sync in vain leaves every group as it was. -/
theorem sync_error_frame (hc : IsPiece c.nameSpace) (hw : w.Settled c) {tenant : String}
    {id : DefinitionId} {e : SyncError}
    (he : ((c.sync w.definitions tenant id).run Ruler.serve w.ruler).1 = .error e)
    (key : GroupKey) :
    ((c.sync w.definitions tenant id).run Ruler.serve w.ruler).2.group? key =
      w.ruler.group? key := by
  obtain ⟨hresult, hbecomes⟩ := sync_ruler hc hw tenant id
  by_cases hkey : key = c.key tenant id.render
  · rw [hkey, hbecomes.here, Operation.leaves_eq, ← hresult, he]
    rfl
  · exact hbecomes.elsewhere key hkey

/-- After any run of upserts, removals and syncs the ruler has, for every organisation and
identifier, what the last successful sync left behind; the store has every row under its
own key; every sync of the run had the result that its row calls for; and a sync that fails
changes no group. -/
theorem converges {c : Client} (hc : IsPiece c.nameSpace) {actions : List Action}
    (hread : ∀ d, .upsert d ∈ actions → d.IsLegible) :
    let w := c.acts actions
    (∀ org id, w.ruler.group? ⟨org, c.nameSpace, id.render⟩ =
      lastLeft c.tenancy org id w.syncs) ∧
    (∀ tenant id d, w.definitions.get? tenant id = some d → d.tenant = tenant ∧ d.id = id) ∧
    (∀ s ∈ w.syncs,
      (s.row = none → s.result = .ok (.removed s.id.render)) ∧
      (∀ d g, s.row = some d → d.group = .ok g → s.result = .ok (.updated g)) ∧
      ∀ g, s.result = .ok (.updated g) → ∃ d, s.row = some d ∧ d.group = .ok g) ∧
    ∀ before tenant id after e, actions = before ++ .sync tenant id :: after →
      ((c.sync (c.acts before).definitions tenant id).run Ruler.serve
        (c.acts before).ruler).1 = .error e →
      ∀ key, (c.acts (before ++ [.sync tenant id])).ruler.group? key =
        (c.acts before).ruler.group? key := by
  intro w
  have hw : w.Settled c := acts_settled hc hread
  refine ⟨hw.kept, ?_, ?_, ?_⟩
  · intro tenant id d hd
    obtain ⟨htenant, hid, -⟩ := hw.keyed tenant id d hd
    exact ⟨htenant, hid⟩
  · intro s hs
    exact SyncRecord.spec (hw.recorded s hs)
  · rintro before tenant id after e rfl he key
    have hbefore : (c.acts before).Settled c :=
      acts_settled hc fun d hd => hread d (List.mem_append_left _ hd)
    rw [acts, List.foldl_append]
    exact sync_error_frame hc hbefore he key

/-- A row that is taken out after its sync stays in the ruler until the next one. -/
theorem converges_before_removal :
    let d : Definition := ⟨⟨List.replicate 32 1, by decide⟩, "team", "alert: A\nexpr: up", 15, {}⟩
    let c : Client := ⟨"alerts", .standard⟩
    let actions : List Action := [.upsert d, .sync "team" d.id, .remove "team" d.id]
    IsPiece c.nameSpace ∧ (∀ row, .upsert row ∈ actions → row.IsLegible) ∧
      ∃ g, d.group = .ok g ∧
        (c.acts actions).ruler.group? ⟨"team", "alerts", d.id.render⟩ = some g := by
  intro d c actions
  have hc : IsPiece c.nameSpace := ⟨by decide, by decide⟩
  have hd : d.IsLegible := by decide +kernel
  have hread : ∀ row, .upsert row ∈ actions → row.IsLegible := by
    intro row hrow
    have hrow : row = d := by simpa [actions] using hrow
    exact hrow ▸ hd
  obtain ⟨hkept, -, hsyncs, -⟩ := converges hc hread
  cases hbuild : d.group with
  | error e =>
    have hok : d.group.isOk = true := by decide +kernel
    rw [hbuild] at hok
    cases hok
  | ok g =>
    refine ⟨hc, hread, g, rfl, ?_⟩
    -- the one sync found the row, so it has the built group for its result
    have hrow : (Definitions.empty.upsert d).get? "team" d.id = some d :=
      (Definitions.get?_upsert _ _ _ _).trans (if_pos rfl)
    have hresult := (hsyncs _ (.head _)).2.1 d g hrow hbuild
    rw [hkept "team" d.id]
    exact (lastLeft_cons ⟨rfl, rfl⟩ []).trans (by rw [hresult]; rfl)

end Client

end AlertRules
