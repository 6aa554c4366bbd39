/-
AlertRules/Proofs/Sync/Requests.lean

What is sent when a definition is brought to a ruler that may answer anything.  Such a
ruler is a function of all that it has been sent (`Transport`); `UpdateTrace` and
`SyncTrace` list the ways in which an update and a sync can come to an end, each with the
requests sent on the way and the result.

Every run is one of these (`update_trace`, `sync_trace`).  Where nothing is sent, the
definition itself or its reader is at fault, and an error of that kind means that nothing
was sent (`UpdateTrace.silent_iff`).  The second half needs that a built group can be put
into normal form: verification reports one that cannot in the same way as a failed build.
-/
import AlertRules.Proofs.Definition.Build
import AlertRules.Proofs.Sync.Run
import AlertRules.Proofs.Sync.Verify

namespace AlertRules

/-- A ruler whose answer to a request depends on all requests so far, the last included. -/
abbrev Transport := List Request → Answer

/-- Answers a request and remembers it. -/
def Transport.serve (t : Transport) (past : List Request) (request : Request) :
    Answer × List Request :=
  (t (past ++ [request]), past ++ [request])

/-- A request for a path below that of all groups, with the one header that says for which
organisation it is. -/
def Client.requestFor (c : Client) (tenant method path : String) (body : Option String) :
    Request :=
  ⟨method, rulesPath ++ "/" ++ path, [(orgHeader, c.tenancy.orgId tenant)], body⟩

/-- The error comes from the definition or its reader, not from a ruler. -/
def SyncError.isLocal : SyncError → Bool
  | store _ => true
  | build _ => true
  | _ => false

theorem SyncError.not_isRetryable_of_isLocal {e : SyncError} (h : e.isLocal = true) :
    e.isRetryable = false := by
  cases e <;> first | rfl | cases h

/-! ### Ways to an end -/

section Traces

variable (c : Client) (t : Transport) (past : List Request)

/-- The requests that an update of a definition sends after those in `past`, and its
result. -/
inductive UpdateTrace (d : Definition) : List Request → Except SyncError RuleGroup → Prop
  | unbuilt {e : SyncError} : d.group = .error e → UpdateTrace d [] (.error e)
  | unanswered {g : RuleGroup} {post : Request} {e : TransportError} :
      d.group = .ok g →
      post = c.requestFor d.tenant "POST" c.nameSpace (some g.write) →
      t (past ++ [post]) = .error e →
      UpdateTrace d [post] (.error (.failed .push g.name none e.message))
  | refused {g : RuleGroup} {post : Request} {response : Response} :
      d.group = .ok g →
      post = c.requestFor d.tenant "POST" c.nameSpace (some g.write) →
      t (past ++ [post]) = .ok response → response.isSuccess = false →
      UpdateTrace d [post] (.error (.failed .push g.name (some response.status) response.body))
  | pushed {g : RuleGroup} {post get : Request} {response : Response} :
      d.group = .ok g →
      post = c.requestFor d.tenant "POST" c.nameSpace (some g.write) →
      t (past ++ [post]) = .ok response → response.isSuccess = true →
      get = c.requestFor d.tenant "GET" (c.nameSpace ++ "/" ++ d.id.render) none →
      UpdateTrace d [post, get] ((verified g (t (past ++ [post, get]))).map fun _ => g)

/-- The requests that a sync sends after those in `past`, and its result, by what the
reader of definitions says. -/
inductive SyncTrace (tenant : String) (id : DefinitionId) :
    Except Definition.Error (Option Definition) → List Request →
      Except SyncError SyncOutcome → Prop
  | unread (e : Definition.Error) : SyncTrace tenant id (.error e) [] (.error (.store e))
  | row {d : Definition} {sent : List Request} {result : Except SyncError RuleGroup} :
      UpdateTrace c t past d sent result →
      SyncTrace tenant id (.ok (some d)) sent (result.map .updated)
  | none {delete : Request} :
      delete = c.requestFor tenant "DELETE" (c.nameSpace ++ "/" ++ id.render) none →
      SyncTrace tenant id (.ok none) [delete]
        ((deleted id.render (t (past ++ [delete]))).map fun _ => .removed id.render)

end Traces

variable {c : Client} {t : Transport} {past : List Request}

/-! ### Requests -/

namespace Client

theorem pushRequest_eq (g : RuleGroup) (tenant : String) :
    c.pushRequest g tenant = c.requestFor tenant "POST" c.nameSpace (some g.write) := rfl

theorem groupPath_eq (name : String) :
    c.groupPath name = rulesPath ++ "/" ++ (c.nameSpace ++ "/" ++ name) := by
  simp only [groupPath, path, String.append_assoc]

theorem fetchRequest_eq (name tenant : String) :
    c.fetchRequest name tenant =
      c.requestFor tenant "GET" (c.nameSpace ++ "/" ++ name) none := by
  rw [fetchRequest, groupPath_eq]
  rfl

theorem deleteRequest_eq (name tenant : String) :
    c.deleteRequest name tenant =
      c.requestFor tenant "DELETE" (c.nameSpace ++ "/" ++ name) none := by
  rw [deleteRequest, groupPath_eq]
  rfl

end Client

/-! ### Every run is one of these -/

theorem update_trace (c : Client) (t : Transport) (past : List Request) (d : Definition) :
    ∃ sent result, (c.update d).run t.serve past = (result, past ++ sent) ∧
      UpdateTrace c t past d sent result := by
  cases hbuild : d.group with
  | error e =>
    refine ⟨[], .error e, ?_, .unbuilt hbuild⟩
    rw [c.run_update_of_unbuilt t.serve hbuild, List.append_nil]
  | ok g =>
    cases hpost : t (past ++ [c.pushRequest g d.tenant]) with
    | error e =>
      refine ⟨_, _, ?_, .unanswered hbuild (c.pushRequest_eq g d.tenant) hpost⟩
      have hpush : pushed g.name (t.serve past (c.pushRequest g d.tenant)).1 =
          .error (.failed .push g.name none e.message) := by
        rw [Transport.serve, hpost]
        rfl
      exact c.run_update_of_refused t.serve hbuild past hpush
    | ok response =>
      cases hr : response.isSuccess with
      | false =>
        refine ⟨_, _, ?_, .refused hbuild (c.pushRequest_eq g d.tenant) hpost hr⟩
        have hpush : pushed g.name (t.serve past (c.pushRequest g d.tenant)).1 =
            .error (.failed .push g.name (some response.status) response.body) := by
          simp [Transport.serve, hpost, pushed, Answer.body, hr]
        exact c.run_update_of_refused t.serve hbuild past hpush
      | true =>
        -- the group is in the ruler under the identifier, and is read back from there
        have hname : g.name = d.id.render := (Definition.group_shape hbuild).1
        refine ⟨_, _, ?_, .pushed hbuild (c.pushRequest_eq g d.tenant) hpost hr
          (c.fetchRequest_eq d.id.render d.tenant)⟩
        have hpush : pushed g.name (t.serve past (c.pushRequest g d.tenant)).1 = .ok () := by
          simp [Transport.serve, hpost, pushed, Answer.body, hr]
        rw [c.run_update_of_pushed t.serve hbuild past hpush, hname]
        simp [Transport.serve]

theorem remove_trace (c : Client) (t : Transport) (past : List Request) (tenant : String)
    (id : DefinitionId) {delete : Request}
    (h : delete = c.requestFor tenant "DELETE" (c.nameSpace ++ "/" ++ id.render) none) :
    (c.remove id tenant).run t.serve past =
      (deleted id.render (t (past ++ [delete])), past ++ [delete]) := by
  rw [c.run_remove t.serve id tenant past, c.deleteRequest_eq, ← h]
  rfl

theorem sync_trace (c : Client) (t : Transport) (past : List Request) (tenant : String)
    (id : DefinitionId) (lookup : Except Definition.Error (Option Definition)) :
    ∃ sent result, (c.syncWith lookup tenant id).run t.serve past = (result, past ++ sent) ∧
      SyncTrace c t past tenant id lookup sent result := by
  rcases lookup with e | (- | d)
  · refine ⟨[], _, ?_, .unread e⟩
    rw [c.run_syncWith_unread, List.append_nil]
  · refine ⟨_, _, ?_, .none rfl⟩
    rw [c.run_syncWith_none, remove_trace c t past tenant id rfl]
  · obtain ⟨sent, result, hrun, htrace⟩ := update_trace c t past d
    refine ⟨sent, _, ?_, .row htrace⟩
    rw [c.run_syncWith_row, hrun]

/-! ### What the result says about the requests -/

/-- No stage of verification blames the definition. -/
theorem VerifyFault.not_isLocal {g : RuleGroup} {answer : Answer} {e : SyncError}
    (h : VerifyFault g answer e) : e.isLocal = false := by
  cases h <;> rfl

theorem deleted_not_isLocal {name : String} {answer : Answer} {e : SyncError}
    (h : deleted name answer = .error e) : e.isLocal = false := by
  unfold deleted at h
  split at h
  · cases h
  · cases answer with
    | error e' =>
      cases h
      rfl
    | ok response =>
      cases hr : response.isSuccess <;> simp [Answer.body, hr] at h
      cases h
      rfl

/-- A group that is not built is the definition's own fault. -/
theorem Definition.group_isLocal {d : Definition} {e : SyncError} (h : d.group = .error e) :
    e.isLocal = true := by
  unfold Definition.group at h
  cases hv : d.validate with
  | error cause =>
    rw [hv] at h
    cases h
    rfl
  | ok =>
    cases hb : d.build with
    | ok g =>
      rw [hv, hb] at h
      cases h
    | error cause =>
      rw [hv, hb] at h
      cases h
      rfl

namespace UpdateTrace

variable {d : Definition} {sent : List Request} {result : Except SyncError RuleGroup}

/-- Nothing is sent exactly where the result blames the definition. -/
theorem silent_iff (h : UpdateTrace c t past d sent result) :
    sent = [] ↔ ∃ e, result = .error e ∧ e.isLocal = true := by
  cases h with
  | unbuilt hbuild => exact iff_of_true rfl ⟨_, rfl, d.group_isLocal hbuild⟩
  | unanswered =>
    refine iff_of_false (List.cons_ne_nil _ _) ?_
    rintro ⟨e, he, hlocal⟩
    cases he
    cases hlocal
  | refused =>
    refine iff_of_false (List.cons_ne_nil _ _) ?_
    rintro ⟨e, he, hlocal⟩
    cases he
    cases hlocal
  | @pushed g post get _ hbuild =>
    refine iff_of_false (List.cons_ne_nil _ _) ?_
    rintro ⟨e, he, hlocal⟩
    -- a built group has a normal form, so verification never blames it
    have htimed : g.IsTimed := (Definition.group_shape hbuild).2.2
    have hfault := (verified_eq_error_iff htimed).1 (Outcome.map_eq_error_iff.1 he)
    rw [hfault.not_isLocal] at hlocal
    cases hlocal

/-- A successful update has the group that was built for its result. -/
theorem group_eq (h : UpdateTrace c t past d sent result) {g : RuleGroup}
    (hresult : result = .ok g) : d.group = .ok g := by
  cases h with
  | unbuilt => cases hresult
  | unanswered => cases hresult
  | refused => cases hresult
  | pushed hbuild =>
    obtain ⟨-, -, rfl⟩ := Outcome.map_eq_ok_iff.1 hresult
    exact hbuild

theorem headers_eq (h : UpdateTrace c t past d sent result) {request : Request}
    (hsent : request ∈ sent) : request.headers = [(orgHeader, c.tenancy.orgId d.tenant)] := by
  cases h with
  | unbuilt => cases hsent
  | unanswered _ hpost => rw [List.mem_singleton.1 hsent, hpost]; rfl
  | refused _ hpost => rw [List.mem_singleton.1 hsent, hpost]; rfl
  | pushed _ hpost _ _ hget =>
    rcases List.mem_cons.1 hsent with rfl | hsent
    · rw [hpost]; rfl
    · rw [List.mem_singleton.1 hsent, hget]; rfl

end UpdateTrace

/-- Nothing is sent exactly where the result blames the definition or its reader. -/
theorem SyncTrace.silent_iff {tenant : String} {id : DefinitionId} {sent : List Request}
    {lookup : Except Definition.Error (Option Definition)}
    {result : Except SyncError SyncOutcome} (h : SyncTrace c t past tenant id lookup sent result) :
    sent = [] ↔ ∃ e, result = .error e ∧ e.isLocal = true := by
  cases h with
  | unread e => exact iff_of_true rfl ⟨_, rfl, rfl⟩
  | row htrace =>
    simp only [Outcome.map_eq_error_iff]
    exact htrace.silent_iff
  | none =>
    refine iff_of_false (List.cons_ne_nil _ _) ?_
    rintro ⟨e, he, hlocal⟩
    rw [deleted_not_isLocal (Outcome.map_eq_error_iff.1 he)] at hlocal
    cases hlocal

/-- Before an error that may pass by itself something was sent. -/
theorem sent_ne_nil_of_isRetryable {α : Type} {sent : List Request}
    {result : Except SyncError α} {e : SyncError}
    (hsilent : sent = [] ↔ ∃ e, result = .error e ∧ e.isLocal = true)
    (hresult : result = .error e) (hretry : e.isRetryable = true) : sent ≠ [] := by
  intro hnil
  obtain ⟨e', he', hlocal⟩ := hsilent.1 hnil
  rw [hresult] at he'
  cases he'
  rw [SyncError.not_isRetryable_of_isLocal hlocal] at hretry
  cases hretry

/-! ### Short-circuiting -/

/-- Against every ruler an update, a removal and a sync send what their traces say and no
more, and have the results that these say.  An update that succeeds has the built group for
its result, all of its requests are for the organisation of the definition's tenant, and
nothing is sent exactly where an error blames the definition or its reader; so before an
error that may pass by itself something was sent. -/
theorem Client.sync_short_circuits (c : Client) (t : Transport) (past : List Request) :
    (∀ d, ∃ sent result, (c.update d).run t.serve past = (result, past ++ sent) ∧
      UpdateTrace c t past d sent result ∧
      (∀ g, result = .ok g → d.group = .ok g) ∧
      (∀ request ∈ sent, request.headers = [(orgHeader, c.tenancy.orgId d.tenant)]) ∧
      (sent = [] ↔ ∃ e, result = .error e ∧ e.isLocal = true) ∧
      ∀ e, result = .error e → e.isRetryable = true → sent ≠ []) ∧
    (∀ tenant id, ∃ delete,
      delete = c.requestFor tenant "DELETE" (c.nameSpace ++ "/" ++ id.render) none ∧
      (c.remove id tenant).run t.serve past =
        (deleted id.render (t (past ++ [delete])), past ++ [delete])) ∧
    ∀ tenant id lookup, ∃ sent result,
      (c.syncWith lookup tenant id).run t.serve past = (result, past ++ sent) ∧
      SyncTrace c t past tenant id lookup sent result ∧
      (sent = [] ↔ ∃ e, result = .error e ∧ e.isLocal = true) ∧
      ∀ e, result = .error e → e.isRetryable = true → sent ≠ [] := by
  refine ⟨?_, ?_, ?_⟩
  · intro d
    obtain ⟨sent, result, hrun, htrace⟩ := update_trace c t past d
    exact ⟨sent, result, hrun, htrace, fun g => htrace.group_eq, fun r => htrace.headers_eq,
      htrace.silent_iff, fun e => sent_ne_nil_of_isRetryable htrace.silent_iff⟩
  · intro tenant id
    exact ⟨_, rfl, remove_trace c t past tenant id rfl⟩
  · intro tenant id lookup
    obtain ⟨sent, result, hrun, htrace⟩ := sync_trace c t past tenant id lookup
    exact ⟨sent, result, hrun, htrace, htrace.silent_iff,
      fun e => sent_ne_nil_of_isRetryable htrace.silent_iff⟩

end AlertRules
