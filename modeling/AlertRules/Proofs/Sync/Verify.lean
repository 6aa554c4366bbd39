/-
AlertRules/Proofs/Sync/Verify.lean

Verifying decides agreement.  A pushed group whose durations all denote lengths is
confirmed exactly when the ruler's answer holds a group of one rule that agrees with it,
in all but the spelling of durations; otherwise the one error says which stage failed
first (`verify_outcome`).

`VerifyFault` lists the stages in their order, each with what the stages before it have
let through.  Every answer confirms the group or has a fault (`confirms_or_fault`), and
each of the two fixes the outcome, so the two exclude each other.
-/
import AlertRules.Proofs.Outcome
import AlertRules.Proofs.Rule.Difference
import AlertRules.Proofs.Rule.Normal
import AlertRules.Ruler.Client

namespace AlertRules

/-! ### Stages -/

/-- The answer holds a group of one rule, whose durations denote lengths, and the expected
group has one rule too; the two agree in all but how their durations are spelled. -/
def Confirms (g : RuleGroup) (answer : Answer) : Prop :=
  ∃ response h rule other, answer = .ok response ∧ response.isSuccess = true ∧
    RuleGroup.read? response.body = some h ∧ h.IsTimed ∧
    g.rules = [rule] ∧ h.rules = [other] ∧ g.name = h.name ∧
    Duration.length? g.interval = Duration.length? h.interval ∧ rule.Agrees other

/-- The first stage at which an answer fails to confirm a group, as an error. -/
inductive VerifyFault (g : RuleGroup) : Answer → SyncError → Prop
  | unanswered (e : TransportError) :
      VerifyFault g (.error e) (.failed .fetch g.name none e.message)
  | refused {response : Response} :
      response.isSuccess = false →
      VerifyFault g (.ok response) (.failed .fetch g.name (some response.status) response.body)
  | unreadable {response : Response} :
      response.isSuccess = true → RuleGroup.read? response.body = none →
      VerifyFault g (.ok response) (.undecodable (.document noGroupDocument))
  | ruleCount {response : Response} {h : RuleGroup} :
      response.isSuccess = true → RuleGroup.read? response.body = some h →
      h.rules.length ≠ 1 → VerifyFault g (.ok response) (.ruleCount g.name h.rules.length)
  | badDuration {response : Response} {h : RuleGroup} {bad : BadDuration} :
      response.isSuccess = true → RuleGroup.read? response.body = some h →
      h.rules.length = 1 → FirstFault h.durations bad →
      VerifyFault g (.ok response) (.undecodable (.duration bad))
  | mismatch {response : Response} {h expected actual : RuleGroup} :
      response.isSuccess = true → RuleGroup.read? response.body = some h →
      h.rules.length = 1 → h.IsTimed → ¬ g.Agrees h →
      g.normalize = .ok expected → h.normalize = .ok actual →
      expected.differences actual ≠ [] →
      VerifyFault g (.ok response) (.mismatch g.name expected actual
        ((expected.differences actual).map Difference.message))

/-! ### Fetching -/

theorem fetched_of_refused {name : String} {r : Response} (h : r.isSuccess = false) :
    fetched name (.ok r) = .error (.failed .fetch name (some r.status) r.body) := by
  simp [fetched, Answer.body, h]

theorem fetched_of_unreadable {name : String} {r : Response} (hr : r.isSuccess = true)
    (h : RuleGroup.read? r.body = none) :
    fetched name (.ok r) = .error (.undecodable (.document noGroupDocument)) := by
  simp [fetched, Answer.body, hr, h]

theorem fetched_of_read {name : String} {r : Response} {h : RuleGroup}
    (hr : r.isSuccess = true) (hread : RuleGroup.read? r.body = some h) :
    fetched name (.ok r) = .ok h := by
  simp [fetched, Answer.body, hr, hread]

/-! ### Comparing -/

theorem compared_of_count {g h : RuleGroup} (hcount : h.rules.length ≠ 1) :
    compared g h = .error (.ruleCount g.name h.rules.length) := by
  simp [compared, hcount]

theorem compared_of_firstFault {g h : RuleGroup} {bad : BadDuration} (hg : g.IsTimed)
    (hcount : h.rules.length = 1) (hbad : FirstFault h.durations bad) :
    compared g h = .error (.undecodable (.duration bad)) := by
  simp [compared, hcount, RuleGroup.normalize_of_isTimed hg,
    RuleGroup.normalize_of_firstFault hbad]

/-- Of two groups that can be compared, the differences of the normal forms decide. -/
theorem compared_of_isTimed {g h : RuleGroup} {differences : List Difference} (hg : g.IsTimed)
    (hcount : h.rules.length = 1) (hh : h.IsTimed)
    (hdiff : g.normalForm.differences h.normalForm = differences) :
    compared g h = if differences = [] then .ok () else
      .error (.mismatch g.name g.normalForm h.normalForm
        (differences.map Difference.message)) := by
  simp only [compared, hcount, RuleGroup.normalize_of_isTimed hg,
    RuleGroup.normalize_of_isTimed hh, Outcome.ok_bind, Outcome.mapError_ok, hdiff]
  cases differences <;> rfl

theorem compared_of_agrees {g h : RuleGroup} (hg : g.IsTimed) (hcount : h.rules.length = 1)
    (hh : h.IsTimed) (hagrees : g.Agrees h) : compared g h = .ok () := by
  have hforms := (RuleGroup.normalForm_eq_iff_agrees hg hh).2 hagrees
  exact compared_of_isTimed hg hcount hh (RuleGroup.differences_eq_nil_iff.2 hforms)

theorem differences_ne_nil_of_not_agrees {g h : RuleGroup} (hg : g.IsTimed)
    (hh : h.IsTimed) (hagrees : ¬ g.Agrees h) :
    g.normalForm.differences h.normalForm ≠ [] := by
  intro hnil
  exact hagrees ((RuleGroup.normalForm_eq_iff_agrees hg hh).1
    (RuleGroup.differences_eq_nil_iff.1 hnil))

theorem compared_of_differences {g h : RuleGroup} (hg : g.IsTimed)
    (hcount : h.rules.length = 1) (hh : h.IsTimed)
    (hne : g.normalForm.differences h.normalForm ≠ []) :
    compared g h = .error (.mismatch g.name g.normalForm h.normalForm
      ((g.normalForm.differences h.normalForm).map Difference.message)) := by
  rw [compared_of_isTimed hg hcount hh rfl, if_neg hne]

/-! ### Outcomes -/

theorem verified_of_confirms {g : RuleGroup} {answer : Answer} (hg : g.IsTimed)
    (h : Confirms g answer) : verified g answer = .ok () := by
  obtain ⟨response, actual, rule, other, rfl, hr, hread, hactual, hsole⟩ := h
  obtain ⟨hagrees, hcount⟩ := RuleGroup.agrees_and_sole_iff.2 ⟨rule, other, hsole⟩
  rw [verified, fetched_of_read hr hread]
  exact compared_of_agrees hg hcount hactual hagrees

theorem verified_of_fault {g : RuleGroup} {answer : Answer} {e : SyncError} (hg : g.IsTimed)
    (h : VerifyFault g answer e) : verified g answer = .error e := by
  cases h with
  | unanswered e => rfl
  | refused hr =>
    rw [verified, fetched_of_refused hr]
    rfl
  | unreadable hr hread =>
    rw [verified, fetched_of_unreadable hr hread]
    rfl
  | ruleCount hr hread hcount =>
    rw [verified, fetched_of_read hr hread]
    exact compared_of_count hcount
  | badDuration hr hread hcount hbad =>
    rw [verified, fetched_of_read hr hread]
    exact compared_of_firstFault hg hcount hbad
  | mismatch hr hread hcount hh _ hexpected hactual hne =>
    rw [RuleGroup.normalize_of_isTimed hg] at hexpected
    rw [RuleGroup.normalize_of_isTimed hh] at hactual
    cases hexpected
    cases hactual
    rw [verified, fetched_of_read hr hread]
    exact compared_of_differences hg hcount hh hne

/-- Every answer confirms the group, or some stage is the first to fail. -/
theorem confirms_or_fault {g : RuleGroup} (hg : g.IsTimed) (answer : Answer) :
    Confirms g answer ∨ ∃ e, VerifyFault g answer e := by
  -- stage by stage, each with what the stages before it have let through
  cases answer with
  | error e => exact .inr ⟨_, .unanswered e⟩
  | ok response =>
    cases hr : response.isSuccess with
    | false => exact .inr ⟨_, .refused hr⟩
    | true =>
      cases hread : RuleGroup.read? response.body with
      | none => exact .inr ⟨_, .unreadable hr hread⟩
      | some h =>
        by_cases hcount : h.rules.length = 1
        · rcases firstFault_or_forall h.durations with ⟨bad, hbad⟩ | hh
          · exact .inr ⟨_, .badDuration hr hread hcount hbad⟩
          · -- both groups have a normal form, so only their agreement is left
            by_cases hagrees : g.Agrees h
            · obtain ⟨rule, other, hsole⟩ := RuleGroup.agrees_and_sole_iff.1 ⟨hagrees, hcount⟩
              exact .inl ⟨response, h, rule, other, rfl, hr, hread, hh, hsole⟩
            · exact .inr ⟨_, .mismatch hr hread hcount hh hagrees
                (RuleGroup.normalize_of_isTimed hg) (RuleGroup.normalize_of_isTimed hh)
                (differences_ne_nil_of_not_agrees hg hh hagrees)⟩
        · exact .inr ⟨_, .ruleCount hr hread hcount⟩

theorem verified_eq_ok_iff {g : RuleGroup} {answer : Answer} (hg : g.IsTimed) :
    verified g answer = .ok () ↔ Confirms g answer := by
  constructor
  · intro hok
    rcases confirms_or_fault hg answer with hconfirms | ⟨e, hfault⟩
    · exact hconfirms
    · rw [verified_of_fault hg hfault] at hok
      cases hok
  · exact verified_of_confirms hg

theorem verified_eq_error_iff {g : RuleGroup} {answer : Answer} {e : SyncError}
    (hg : g.IsTimed) : verified g answer = .error e ↔ VerifyFault g answer e := by
  constructor
  · intro herror
    rcases confirms_or_fault hg answer with hconfirms | ⟨e', hfault⟩
    · rw [verified_of_confirms hg hconfirms] at herror
      cases herror
    · -- the outcome is one error, so the fault that there is is the one asked for
      rw [verified_of_fault hg hfault] at herror
      cases herror
      exact hfault
  · exact verified_of_fault hg

/-- Verifying succeeds exactly where the answer to its one request confirms the group, and
fails exactly with the first fault of that answer. -/
theorem Client.verify_outcome {σ : Type} (serve : σ → Request → Answer × σ) (s : σ)
    (c : Client) (tenant : String) {g : RuleGroup} (hg : g.IsTimed) :
    (((c.verify g tenant).run serve s).1 = .ok () ↔
      Confirms g (serve s (c.fetchRequest g.name tenant)).1) ∧
    ∀ e, ((c.verify g tenant).run serve s).1 = .error e ↔
      VerifyFault g (serve s (c.fetchRequest g.name tenant)).1 e := by
  have hrun : ((c.verify g tenant).run serve s).1 =
      verified g (serve s (c.fetchRequest g.name tenant)).1 := rfl
  rw [hrun]
  exact ⟨verified_eq_ok_iff hg, fun e => verified_eq_error_iff hg⟩

/-- A minute pushed as sixty seconds and a zero wait are confirmed by an answer that spells
the minute `1m` and leaves the wait out. -/
theorem Client.verify_minute :
    let g : RuleGroup := ⟨"g", "60s", [{ alert := "A", expr := "up", pending := "0s" }]⟩
    let body := "name: g\ninterval: 1m\nrules:\n- alert: A\n  expr: up\n"
    g.IsTimed ∧ ((Client.verify ⟨"ns", .standard⟩ g "team").run
      (fun (_ : Unit) _ => (.ok ⟨200, body⟩, ())) ()).1 = .ok () := by
  intro g body
  have hg : g.IsTimed := by
    intro value hvalue
    rcases List.mem_cons.1 hvalue with rfl | hvalue
    · exact ⟨⟨60000000000, by decide⟩, by decide +kernel⟩
    · rw [List.mem_singleton.1 hvalue]
      exact ⟨Duration.zero, by decide +kernel⟩
  let h : RuleGroup := ⟨"g", "1m", [{ alert := "A", expr := "up" }]⟩
  have hh : h.IsTimed := by
    intro value hvalue
    rcases List.mem_cons.1 hvalue with rfl | hvalue
    · exact ⟨⟨60000000000, by decide⟩, by decide +kernel⟩
    · rw [List.mem_singleton.1 hvalue]
      exact ⟨Duration.zero, by decide +kernel⟩
  refine ⟨hg, (Client.verify_outcome _ () ⟨"ns", .standard⟩ "team" hg).1.2 ?_⟩
  exact ⟨⟨200, body⟩, h, _, _, rfl, by decide, by decide +kernel, hh, rfl, rfl, rfl,
    by decide +kernel, rfl, rfl, by decide +kernel, rfl, rfl⟩

end AlertRules
