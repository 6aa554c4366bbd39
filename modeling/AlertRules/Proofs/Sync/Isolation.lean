/-
AlertRules/Proofs/Sync/Isolation.lean

Tenants that use one ruler through one client.  Everything that the client sends for a tenant
is for the organisation of the tenant, and the ruler separates organisations.  So what a
tenant's calls return does not depend on whether the others call at all, in whatever order
their requests are interleaved (`Client.isolated`).

Tenants are organisations of their own, but for one pair: the reserved tenant is known to the
ruler by a name that another tenant may have (`Tenancy.orgId_eq_iff`).  These two share their
groups (`Client.not_always_isolated`).
-/
import AlertRules.Proofs.Ruler.Isolation
import AlertRules.Proofs.Sync.Run

namespace AlertRules

open Exchange (Sends)

/-! ### Tenants and organisations -/

namespace Tenancy

/-- One of the two is the reserved tenant, and the other has the name by which the ruler knows
it. -/
def Merges (t : Tenancy) (a b : String) : Prop :=
  a = t.reserved ∧ b = t.backend ∨ a = t.backend ∧ b = t.reserved

instance (t : Tenancy) (a b : String) : Decidable (t.Merges a b) :=
  inferInstanceAs (Decidable (_ ∨ _))

theorem orgId_eq_iff (t : Tenancy) (a b : String) :
    t.orgId a = t.orgId b ↔ a = b ∨ t.Merges a b := by
  unfold orgId Merges
  by_cases ha : a = t.reserved
  · by_cases hb : b = t.reserved
    · simp [ha, hb]
    · simp only [ha, hb, if_true, if_false, true_and, and_false, or_false]
      exact ⟨fun h => .inr h.symm, fun h => h.elim (fun h => absurd h.symm hb) Eq.symm⟩
  · by_cases hb : b = t.reserved
    · simp [ha, hb]
    · simp [ha, hb]

end Tenancy

/-! ### Calls -/

/-- What a tenant can have a client do. -/
inductive Errand
  | push (group : RuleGroup)
  | fetch (name : String)
  | verify (group : RuleGroup)
  | update (d : Definition)
  | remove (id : DefinitionId)

/-- What a call returns; there is a group in it where the call gives one back. -/
abbrev Reply := Except SyncError (Option RuleGroup)

namespace Client

variable (c : Client) (tenant : String)

/-- The call that does an errand for a tenant; a definition is taken as the tenant's own. -/
def attend : Errand → Exchange Reply
  | .push group => (c.push group tenant).map fun result => result.map fun _ => none
  | .fetch name => (c.fetch name tenant).map fun result => result.map some
  | .verify group => (c.verify group tenant).map fun result => result.map fun _ => none
  | .update d => (c.update { d with tenant := tenant }).map fun result => result.map some
  | .remove id => (c.remove id tenant).map fun result => result.map fun _ => none

/-- The calls for the errands of a tenant, one after another. -/
def attendAll : List Errand → Exchange (List Reply)
  | [] => .done []
  | errand :: errands => (c.attend tenant errand).bind fun reply =>
      (attendAll errands).map fun replies => reply :: replies

variable {c tenant}

theorem isFor_of_headers {request : Request} (h : request.headers = c.headers tenant) :
    request.IsFor (c.tenancy.orgId tenant) :=
  header?_of_headers h

theorem update_sends {d : Definition} (hd : d.tenant = tenant) :
    (c.update d).Sends (Request.IsFor (c.tenancy.orgId tenant)) := by
  subst hd
  cases hgroup : d.group with
  | error e =>
    rw [c.update_of_unbuilt hgroup]
    exact .done _
  | ok g =>
    rw [c.update_of_built hgroup]
    refine (Sends.ask (isFor_of_headers rfl) _).bind fun result => ?_
    cases result with
    | error e => exact .done _
    | ok => exact (Sends.ask (isFor_of_headers rfl) _).map _

/-- All requests of a call are for the organisation of the tenant. -/
theorem attend_sends (c : Client) (tenant : String) (errand : Errand) :
    (c.attend tenant errand).Sends (Request.IsFor (c.tenancy.orgId tenant)) := by
  cases errand with
  | push group => exact (Sends.ask (isFor_of_headers rfl) _).map _
  | fetch name => exact (Sends.ask (isFor_of_headers rfl) _).map _
  | verify group => exact (Sends.ask (isFor_of_headers rfl) _).map _
  | update d => exact (update_sends (d := { d with tenant := tenant }) rfl).map _
  | remove id => exact (Sends.ask (isFor_of_headers rfl) _).map _

theorem attendAll_sends (c : Client) (tenant : String) (errands : List Errand) :
    (c.attendAll tenant errands).Sends (Request.IsFor (c.tenancy.orgId tenant)) := by
  induction errands with
  | nil => exact .done []
  | cons errand errands ih => exact (c.attend_sends tenant errand).bind fun _ => ih.map _

end Client

/-! ### Isolation -/

namespace Client

variable {ι : Type}

/-- What each of several callers has the client do for its tenant. -/
def callers (c : Client) (tenant : ι → String) (errands : ι → List Errand) (i : ι) :
    Exchange (List Reply) :=
  c.attendAll (tenant i) (errands i)

variable [DecidableEq ι] {c : Client} {tenant : ι → String}

/-- In every order of turns, what is left of the calls for a tenant is what is left of them if
the calls for all other tenants are left out, none of which shares its organisation.  A caller
that is the only one for the tenant has the replies that it has alone, however all the calls
are brought to their ends. -/
theorem isolated (errands : ι → List Errand) {own : String}
    (hothers : ∀ i, tenant i ≠ own → ¬ c.tenancy.Merges (tenant i) own) (r : Ruler)
    {j : ι} (hj : tenant j = own) :
    (∀ order : List ι,
      (Session.turns Ruler.serve ⟨c.callers tenant errands, r⟩ order).left j =
        (Session.turns Ruler.serve ⟨c.callers tenant errands, r⟩
          (order.filter fun i => tenant i = own)).left j) ∧
    ((∀ i, tenant i = own → i = j) → ∀ replies r',
      Interleaved Ruler.serve (c.callers tenant errands) r replies r' →
        replies j = ((c.attendAll own (errands j)).run Ruler.serve r).1) := by
  have hstart : Separates.InStep (Request.IsFor (c.tenancy.orgId own))
      (Ruler.AlikeFor (c.tenancy.orgId own)) (fun i => tenant i = own)
      (⟨c.callers tenant errands, r⟩ : Session ι (List Reply) Ruler)
      ⟨c.callers tenant errands, r⟩ := by
    refine ⟨.refl _ r, fun _ _ => rfl, fun i hi => ?_, fun i hi => ?_⟩
    · obtain rfl := of_decide_eq_true hi
      exact c.attendAll_sends _ _
    · -- another tenant's organisation is another one
      have hne : tenant i ≠ own := of_decide_eq_false hi
      refine (c.attendAll_sends _ _).mono fun request hrequest hown => ?_
      have horg := Option.some.inj (hrequest.symm.trans hown)
      exact ((c.tenancy.orgId_eq_iff _ _).1 horg).elim hne (hothers i hne)
  have hleft : ∀ order : List ι, _ := fun order =>
    ((Ruler.separates (c.tenancy.orgId own)).turns_filter hstart order).same j
      (decide_eq_true hj)
  refine ⟨hleft, fun hsole replies r' hserved => ?_⟩
  obtain ⟨order, horder⟩ := Session.interleaved_iff_turns.1 hserved
  have hfilter : ∀ i ∈ order.filter fun i => tenant i = own, i = j := fun i hi =>
    hsole i (of_decide_eq_true (List.mem_filter.1 hi).2)
  have halone := Session.run_turns_of_forall_eq Ruler.serve ⟨c.callers tenant errands, r⟩ hfilter
  rw [← hleft order, horder] at halone
  exact hj ▸ (Prod.ext_iff.1 halone).1

/-- Two tenants push different groups of one name, and each reads its own. -/
theorem isolated_two_tenants :
    let c : Client := ⟨"alerts", .standard⟩
    let g (interval : String) : RuleGroup := ⟨"g", interval, [{ alert := "A", expr := "up" }]⟩
    let tenant (i : Bool) := cond i "one" "two"
    let errands (i : Bool) : List Errand := [.push (g (cond i "15s" "30s")), .fetch "g"]
    (∀ i, tenant i ≠ "two" → ¬ c.tenancy.Merges (tenant i) "two") ∧ tenant false = "two" ∧
      ∃ replies r', Interleaved Ruler.serve (c.callers tenant errands) Ruler.empty replies r' ∧
        replies false = [.ok none, .ok (some (g "30s"))] := by
  intro c g tenant errands
  have hothers : ∀ i, tenant i ≠ "two" → ¬ c.tenancy.Merges (tenant i) "two" := by decide
  obtain ⟨replies, r', h⟩ := exists_interleaved Ruler.serve [true, false]
    (c.callers tenant errands) Ruler.empty (by simp)
  have hsole : ∀ i, tenant i = "two" → i = false := by decide
  have halone := (isolated errands hothers Ruler.empty rfl).2 hsole replies r' h
  refine ⟨hothers, rfl, replies, r', h, halone.trans ?_⟩
  decide +kernel

/-- The reserved tenant's push is what the tenant reads that has the name by which the ruler
knows the reserved one. -/
theorem not_always_isolated :
    ¬ ∀ (c : Client) (a b : String) (errands : Bool → List Errand) (r : Ruler) (order : List Bool),
      c.tenancy.reserved ≠ c.tenancy.backend → a ≠ b →
      let start : Session Bool (List Reply) Ruler := ⟨c.callers (fun i => cond i a b) errands, r⟩
      (start.turns Ruler.serve order).left false =
        (start.turns Ruler.serve (order.filter fun i => i = false)).left false := by
  intro h
  let g : RuleGroup := ⟨"g", "15s", [{ alert := "A", expr := "up" }]⟩
  have hsame := h ⟨"alerts", .standard⟩ "system" "fake" (fun i => cond i [.push g] [.fetch "g"])
    Ruler.empty [true, false] (by decide) (by decide)
  -- with the push there is a group to be read, and without it there is none
  have hends := congrArg (fun x => x.unanswered.1) hsame
  exact absurd hends (by decide +kernel)

end Client

end AlertRules
