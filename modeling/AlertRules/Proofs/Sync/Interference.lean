/-
AlertRules/Proofs/Sync/Interference.lean

What a successful update is worth when others use the ruler too.  Between its two requests
anyone may push, replace or delete any group, its own included; so of what the push did
nothing is known by the time of the fetch, and the guarantee comes from verifying alone.  It
holds in the state in which the fetch was served: there the ruler keeps one rule under the
key of the group, and it agrees with the one that was built (`Client.update_holds`).

The key that the ruler goes by takes its namespace from the path, where it is the one piece of
the namespace that is not empty (`Client.spacePieces`).
-/
import AlertRules.Proofs.Definition.Build
import AlertRules.Proofs.Rule.Document
import AlertRules.Proofs.Ruler.Address
import AlertRules.Proofs.Ruler.Interference
import AlertRules.Proofs.Sync.Run
import AlertRules.Proofs.Sync.Verify

namespace AlertRules

open Outcome

namespace Client

/-- A plain ruler accepts a push into the one piece of the namespace, and changes nothing
else. -/
theorem becomes_of_push (c : Client) {r : Ruler} (hr : r.IsPlain) {nameSpace : String}
    (hpieces : c.spacePieces = [nameSpace]) (g : RuleGroup) (tenant : String) :
    (r.serve (c.pushRequest g tenant)).1 = .ok .accepted ∧
      r.Becomes ⟨c.tenancy.orgId tenant, nameSpace, g.name⟩ (some g)
        (r.serve (c.pushRequest g tenant)).2 := by
  have hdemand := c.demand_pushRequest_eq g.read?_write tenant
  rw [hpieces] at hdemand
  have hkey : (c.pushRequest g tenant).demand.key? =
      some ⟨c.tenancy.orgId tenant, nameSpace, g.name⟩ := by
    rw [hdemand]
    rfl
  have hserve := Ruler.serve_cell hr hkey
  rw [Ruler.serveCell, hdemand] at hserve
  exact hserve

end Client

/-! ### What a fetch shows -/

namespace Ruler

/-- Under the key the ruler keeps a group of one rule that agrees with the sole rule of `g`,
and with `g` in its name and in the length of its interval. -/
def Keeps (r : Ruler) (key : GroupKey) (g : RuleGroup) : Prop :=
  ∃ kept rule other, r.group? key = some kept ∧ g.rules = [rule] ∧ kept.rules = [other] ∧
    g.name = kept.name ∧ rule.Agrees other ∧
    Duration.length? g.interval = Duration.length? kept.interval ∧ g.IsTimed ∧ kept.IsTimed

variable {r : Ruler} {request : Request} {g : RuleGroup}

/-- What a plain ruler answers to a fetch confirms just what it keeps. -/
theorem confirms_iff_keeps (hr : r.IsPlain) (hg : g.IsTimed) {key : GroupKey}
    (hdemand : request.demand = .get key) :
    Confirms g (r.serve request).1 ↔ r.Keeps key g := by
  have hkey : request.demand.key? = some key := by rw [hdemand]; rfl
  rw [(serve_cell hr hkey).1, serveCell, hdemand, Demand.response]
  constructor
  · rintro ⟨response, kept, rule, other, hresponse, hsuccess, hread, htimed, hrule, hother, hname,
      hinterval, hagrees⟩
    cases hresponse
    cases hcell : r.group? key with
    | none =>
      rw [hcell] at hsuccess
      cases hsuccess
    | some group =>
      rw [hcell] at hread
      -- the document of the group is read as the group itself
      obtain rfl : group = kept := Option.some.inj ((group.read?_write).symm.trans hread)
      exact ⟨group, rule, other, hcell, hrule, hother, hname, hagrees, hinterval, hg, htimed⟩
  · rintro ⟨kept, rule, other, hcell, hrule, hother, hname, hagrees, hinterval, -, htimed⟩
    rw [hcell]
    exact ⟨_, kept, rule, other, rfl, rfl, kept.read?_write, htimed, hrule, hother, hname,
      hinterval, hagrees⟩

theorem not_confirms_of_refused (hr : r.IsPlain) {response : Response}
    (hdemand : request.demand = .refused response) (hresponse : response.isSuccess = false) :
    ¬ Confirms g (r.serve request).1 := by
  rintro ⟨answer, _, _, _, hanswer, hsuccess, -⟩
  have hserve : (r.serve request).1 = .ok response := by
    rw [serve, handle, hr.forced, hdemand]
    rfl
  rw [hserve] at hanswer
  cases hanswer
  rw [hresponse] at hsuccess
  cases hsuccess

end Ruler

/-! ### Updates -/

namespace Client

variable {c : Client} {d : Definition} {r : Ruler} {g : RuleGroup} {log : List (Request × Ruler)}

/-- An update of which a group is built, request by request. -/
theorem update_eq_send (c : Client) (h : d.group = .ok g) :
    c.update d = .send (c.pushRequest g d.tenant) fun answer =>
      match pushed g.name answer with
      | .error e => .done (.error e)
      | .ok _ => .send (c.fetchRequest g.name d.tenant) fun answer =>
        .done ((verified g answer).map fun _ => g) := by
  rw [c.update_of_built h]
  refine congrArg (Exchange.send _) (funext fun answer => ?_)
  show (Exchange.done (pushed g.name answer)).andThen _ = _
  cases pushed g.name answer <;> rfl

/-- An update that succeeds has sent two requests, and the answer to the second confirms the
group that was built. -/
theorem runsAmong_update_ok (h : (c.update d).RunsAmong Ruler.serve r (.ok g) log) :
    d.group = .ok g ∧ ∃ before seen : Ruler,
      log = [(c.pushRequest g d.tenant, before), (c.fetchRequest g.name d.tenant, seen)] ∧
      verified g (seen.serve (c.fetchRequest g.name d.tenant)).1 = .ok () := by
  cases hgroup : d.group with
  | error e =>
    rw [c.update_of_unbuilt hgroup] at h
    cases h
  | ok built =>
    rw [c.update_eq_send hgroup] at h
    cases h with
    | send others hrest =>
      generalize hanswer : (Ruler.serve _ (c.pushRequest built d.tenant)).1 = answer at hrest
      cases hpushed : pushed built.name answer with
      | error e =>
        simp only [hpushed] at hrest
        cases hrest
      | ok =>
        simp only [hpushed] at hrest
        generalize hresult : (Except.ok g : Except SyncError RuleGroup) = result at hrest
        cases hrest with
        | send others' hdone =>
          cases hdone
          obtain ⟨⟨⟩, hverified, rfl⟩ := map_eq_ok_iff.1 hresult.symm
          exact ⟨hresult, _, _, rfl, hverified⟩

/-- An update succeeds if the others leave something that agrees with the built group. -/
theorem update_runsAmong (hr : r.IsPlain) (hgroup : d.group = .ok g) {nameSpace : String}
    (hpieces : c.spacePieces = [nameSpace]) (others others' : List Request)
    {before seen : Ruler} (hbefore : Exchange.after Ruler.serve r others = before)
    (hseen : Exchange.after Ruler.serve (before.serve (c.pushRequest g d.tenant)).2 others' = seen)
    (hkeeps : seen.Keeps ⟨c.tenancy.orgId d.tenant, nameSpace, g.name⟩ g) :
    (c.update d).RunsAmong Ruler.serve r (.ok g)
      [(c.pushRequest g d.tenant, before), (c.fetchRequest g.name d.tenant, seen)] := by
  subst hbefore hseen
  obtain ⟨hname, -, hg⟩ := Definition.group_shape hgroup
  have hpiece : IsPiece g.name := hname ▸ d.id.isPiece_render
  obtain ⟨hanswer, hbecomes⟩ := c.becomes_of_push (hr.after others) hpieces g d.tenant
  have hdemand := c.demand_fetchRequest_eq hpiece d.tenant
  rw [hpieces] at hdemand
  have hverified := (verified_eq_ok_iff hg).2
    ((Ruler.confirms_iff_keeps (hbecomes.plain.after others') hg hdemand).2 hkeeps)
  rw [c.update_eq_send hgroup]
  refine .send others ?_
  rw [hanswer]
  refine .send others' ?_
  rw [hverified]
  exact .done _ _

/-- A successful update has fetched from a state in which the ruler keeps what was built: one
rule that agrees with it, under the key of the organisation, the namespace and the name. -/
theorem update_holds (hr : r.IsPlain) (h : (c.update d).RunsAmong Ruler.serve r (.ok g) log) :
    ∃ (nameSpace : String) (before seen : Ruler), c.spacePieces = [nameSpace] ∧
      ('/' ∉ c.nameSpace.toList → nameSpace = c.nameSpace) ∧
      log = [(c.pushRequest g d.tenant, before), (c.fetchRequest g.name d.tenant, seen)] ∧
      seen.Keeps ⟨c.tenancy.orgId d.tenant, nameSpace, g.name⟩ g := by
  obtain ⟨hgroup, before, seen, rfl, hverified⟩ := runsAmong_update_ok h
  obtain ⟨hname, -, hg⟩ := Definition.group_shape hgroup
  have hpiece : IsPiece g.name := hname ▸ d.id.isPiece_render
  have hseen : seen.IsPlain := h.isPlain hr (_, seen) (.tail _ (.head _))
  have hconfirms := (verified_eq_ok_iff hg).1 hverified
  have hdemand := c.demand_fetchRequest_eq hpiece d.tenant
  -- were there no single piece, the fetch would have been refused
  rcases hpieces : c.spacePieces with _ | ⟨nameSpace, _ | ⟨other, more⟩⟩
  · rw [hpieces] at hdemand
    exact absurd hconfirms (Ruler.not_confirms_of_refused hseen hdemand rfl)
  · rw [hpieces] at hdemand
    exact ⟨nameSpace, before, seen, rfl, eq_nameSpace_of_spacePieces hpieces, rfl,
      (Ruler.confirms_iff_keeps hseen hg hdemand).1 hconfirms⟩
  · rw [hpieces] at hdemand
    exact absurd hconfirms (Ruler.not_confirms_of_refused hseen hdemand rfl)

/-- Two others come in between, one that removes the group and one that pushes it again with
other texts for the same lengths. -/
theorem update_holds_replaced :
    let c : Client := ⟨"alerts", .standard⟩
    let d : Definition := ⟨⟨List.replicate 32 1, by decide⟩, "one", "alert: A\nexpr: up", 60, {}⟩
    let again : RuleGroup := ⟨d.id.render, "60s", [{ alert := "A", expr := "up", pending := "0s" }]⟩
    ∃ g log seen, Ruler.empty.IsPlain ∧
      (c.update d).RunsAmong Ruler.serve Ruler.empty (.ok g) log ∧
      (c.fetchRequest g.name "one", seen) ∈ log ∧ g.interval = "1m0s" ∧
      seen.group? ⟨"one", "alerts", d.id.render⟩ = some again ∧
      seen.Keeps ⟨"one", "alerts", d.id.render⟩ g := by
  intro c d again
  let g : RuleGroup := ⟨d.id.render, "1m0s", [{ alert := "A", expr := "up" }]⟩
  have hgroup : d.group = .ok g := by decide +kernel
  have hpieces : c.spacePieces = ["alerts"] := by decide
  obtain ⟨hpushed, -⟩ := (c.becomes_of_push Ruler.isPlain_empty hpieces g "one").2
  obtain ⟨-, hbecomes⟩ :=
    c.becomes_of_push (hpushed.after [c.deleteRequest d.id.render "one"]) hpieces again "one"
  obtain ⟨seen, hseen⟩ : ∃ seen, Exchange.after Ruler.serve
      (Ruler.empty.serve (c.pushRequest g "one")).2
      ([c.deleteRequest d.id.render "one"] ++ [c.pushRequest again "one"]) = seen := ⟨_, rfl⟩
  rw [← Exchange.after_concat, hseen] at hbecomes
  have hagain : again.IsTimed := fun value hvalue => Option.isSome_iff_exists.1
    ((by decide +kernel : ∀ value ∈ again.durations, (Duration.length? value).isSome = true)
      value hvalue)
  have hrun : (c.update d).RunsAmong Ruler.serve Ruler.empty (.ok g)
      [(c.pushRequest g "one", Ruler.empty), (c.fetchRequest g.name "one", seen)] :=
    update_runsAmong Ruler.isPlain_empty hgroup hpieces [] _ rfl hseen
      ⟨again, _, _, hbecomes.here, rfl, rfl, rfl, ⟨rfl, rfl, by decide +kernel, rfl, rfl⟩,
        by decide +kernel, (Definition.group_shape hgroup).2.2, hagain⟩
  obtain ⟨nameSpace, _, seen', -, hspace, hlog, hkeeps⟩ := update_holds Ruler.isPlain_empty hrun
  obtain rfl : nameSpace = "alerts" := hspace (by decide)
  obtain rfl : seen = seen' := by
    simp only [List.cons.injEq, Prod.mk.injEq] at hlog
    exact hlog.2.1.2
  exact ⟨g, _, seen, Ruler.isPlain_empty, hrun, .tail _ (.head _), rfl, hbecomes.here, hkeeps⟩

/-- The ruler does not go by the namespace as it is written: what is sent under `a/` is kept
under `a`. -/
theorem not_always_under_nameSpace :
    ¬ ∀ (c : Client) (d : Definition) (r : Ruler) (g : RuleGroup) (log : List (Request × Ruler)),
      r.IsPlain → (c.update d).RunsAmong Ruler.serve r (.ok g) log →
      ∀ seen, (c.fetchRequest g.name d.tenant, seen) ∈ log →
        seen.Keeps ⟨c.tenancy.orgId d.tenant, c.nameSpace, g.name⟩ g := by
  intro h
  let c : Client := ⟨"a/", .standard⟩
  let d : Definition :=
    ⟨⟨List.replicate 31 0 ++ [1], by decide⟩, "t", "alert: A\nexpr: up", 60, {}⟩
  let g : RuleGroup := ⟨d.id.render, "1m0s", [{ alert := "A", expr := "up" }]⟩
  have hgroup : d.group = .ok g := by decide +kernel
  have hg : g.IsTimed := (Definition.group_shape hgroup).2.2
  have hpieces : c.spacePieces = ["a"] := by decide
  obtain ⟨-, hbecomes⟩ := c.becomes_of_push Ruler.isPlain_empty hpieces g "t"
  generalize hseen : (Ruler.serve _ (c.pushRequest g "t")).2 = seen at hbecomes
  have hrun : (c.update d).RunsAmong Ruler.serve Ruler.empty (.ok g)
      [(c.pushRequest g "t", Ruler.empty), (c.fetchRequest g.name "t", seen)] :=
    update_runsAmong Ruler.isPlain_empty hgroup hpieces [] []
      (Exchange.after_nil _ _) ((Exchange.after_nil _ _).trans hseen)
      ⟨g, _, _, hbecomes.here, rfl, rfl, rfl, ⟨rfl, rfl, rfl, rfl, rfl⟩, rfl, hg, hg⟩
  obtain ⟨kept, _, _, hkept, -⟩ :=
    h c d Ruler.empty g _ Ruler.isPlain_empty hrun seen (.tail _ (.head _))
  have hnone : seen.group? ⟨"t", "a/", g.name⟩ = none :=
    (hbecomes.elsewhere _ (by decide)).trans (Ruler.group?_empty _)
  have hsome : seen.group? ⟨"t", "a/", g.name⟩ = some kept := hkept
  rw [hnone] at hsome
  cases hsome

end Client

end AlertRules
