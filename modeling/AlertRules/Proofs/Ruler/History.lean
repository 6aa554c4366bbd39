/-
AlertRules/Proofs/Ruler/History.lean

A ruler as a record of the last writes to it.  What a request writes can be told from the
request (`Request.Writes`): a group that it brings with it, under the name that the group
has, or nothing, under a name that it gives.  Unless the ruler gives a forced response to
requests of its method, that is what the request does to the ruler (`Ruler.Effective`), and
it is all that it does.

So after any requests a key has what the last effective write to it left there, and what it
had at first if there was none (`Ruler.last_write_wins`).  Nothing is assumed of the ruler:
it may hold any groups, force any responses, and pass the groups that it serves through any
function.
-/
import Mathlib.Data.List.Induction
import AlertRules.Proofs.Ruler.Address
import AlertRules.Proofs.Ruler.Interference

namespace AlertRules

open Exchange (after after_nil after_concat)

/-! ### Addresses -/

namespace Request

/-- The request is for an organisation and has a path of so many pieces: its first header of
the name that says for whom it is has the organisation as its value, and what follows the
common beginning of all paths is made of these pieces, with slashes between them. -/
structure Addresses (request : Request) (org : String) (pieces : List String) : Prop where
  header : ∃ before name behind, request.headers = before ++ (name, org) :: behind ∧
    sameHeader name orgHeader = true ∧ ∀ h ∈ before, sameHeader h.1 orgHeader = false
  path : ∃ rest, request.path = rulesPath ++ rest ∧
    pieces = ((rest.toList.splitOn '/').filter (· ≠ [])).map String.ofList

/-- What a request writes: a group that it brings is put under the name of the group, and
where it deletes there is nothing left. -/
inductive Writes (request : Request) : GroupKey → Option RuleGroup → Prop
  | put {org nameSpace : String} {group : RuleGroup} :
      request.method = "POST" → request.Addresses org [nameSpace] →
      RuleGroup.read? (request.body.getD "") = some group →
      request.Writes ⟨org, nameSpace, group.name⟩ (some group)
  | delete {org nameSpace name : String} :
      request.method = "DELETE" → request.Addresses org [nameSpace, name] →
      request.Writes ⟨org, nameSpace, name⟩ none

theorem splitSlashes_eq (cs : List Char) : splitSlashes cs = cs.splitOn '/' := by
  induction cs with
  | nil => rfl
  | cons c cs ih =>
    have hsplit : (c :: cs).splitOn '/' = if (c == '/') = true then [] :: cs.splitOn '/'
        else (cs.splitOn '/').modifyHead (c :: ·) := List.splitOnP_cons_eq_if_modifyHead c cs
    rw [hsplit, ← ih, splitSlashes]
    by_cases hc : c = '/'
    · rw [if_pos hc, if_pos (beq_iff_eq.2 hc)]
    · obtain ⟨piece, more, hpieces⟩ := List.exists_cons_of_ne_nil (splitSlashes_ne_nil cs)
      rw [if_neg hc, if_neg (mt beq_iff_eq.1 hc), hpieces]
      rfl

/-- A path that has pieces starts as all paths do. -/
theorem exists_rest_of_pathPieces? {path : String} {pieces : List String}
    (h : pathPieces? path = some pieces) : ∃ rest, path = rulesPath ++ rest := by
  unfold pathPieces? at h
  simp only at h
  split at h
  · next hstart =>
    obtain ⟨rest, hrest⟩ := List.isPrefixOf_iff_prefix.1 hstart
    refine ⟨String.ofList rest, String.toList_injective ?_⟩
    rw [String.toList_append, String.toList_ofList, hrest]
  · cases h

theorem header?_eq_some_iff {request : Request} {name org : String} :
    request.header? name = some org ↔ ∃ before sent behind,
      request.headers = before ++ (sent, org) :: behind ∧ sameHeader sent name = true ∧
        ∀ h ∈ before, sameHeader h.1 name = false := by
  rw [header?, Option.map_eq_some_iff]
  constructor
  · rintro ⟨⟨sent, value⟩, hfind, rfl⟩
    obtain ⟨hsame, before, behind, hheaders, hbefore⟩ := List.find?_eq_some_iff_append.1 hfind
    refine ⟨before, sent, behind, hheaders, hsame, fun h hh => ?_⟩
    simpa using hbefore h hh
  · rintro ⟨before, sent, behind, hheaders, hsame, hbefore⟩
    refine ⟨(sent, org), List.find?_eq_some_iff_append.2 ⟨hsame, before, behind, hheaders, ?_⟩, rfl⟩
    intro h hh
    simpa using hbefore h hh

theorem addresses_iff {request : Request} {org : String} {pieces : List String} :
    request.Addresses org pieces ↔
      request.header? orgHeader = some org ∧ pathPieces? request.path = some pieces := by
  have hpieces : ∀ rest : String, pathPieces? (rulesPath ++ rest) =
      some (((rest.toList.splitOn '/').filter (· ≠ [])).map String.ofList) := by
    intro rest
    rw [pathPieces?_rulesPath_append, splitSlashes_eq]
    refine congrArg (fun kept => some (kept.map String.ofList)) (List.filter_congr ?_)
    intro piece _
    cases piece <;> rfl
  constructor
  · rintro ⟨hheader, rest, hpath, rfl⟩
    exact ⟨header?_eq_some_iff.2 hheader, hpath ▸ hpieces rest⟩
  · rintro ⟨hheader, hpath⟩
    obtain ⟨rest, hrest⟩ := exists_rest_of_pathPieces? hpath
    rw [hrest, hpieces, Option.some.injEq] at hpath
    exact ⟨header?_eq_some_iff.1 hheader, rest, hrest, hpath.symm⟩

/-! ### What is asked for -/

variable {request : Request} {org nameSpace name : String} {group : RuleGroup}

theorem demand_eq_demandOf {pieces : List String} (h : request.Addresses org pieces) :
    request.demand = request.demandOf org pieces := by
  obtain ⟨hheader, hpath⟩ := addresses_iff.1 h
  rw [demand, hheader]
  simp only [hpath]

theorem demand_of_post (hmethod : request.method = "POST")
    (h : request.Addresses org [nameSpace])
    (hread : RuleGroup.read? (request.body.getD "") = some group) :
    request.demand = .put org nameSpace group := by
  rw [demand_eq_demandOf h]
  simp only [demandOf, hmethod, hread]

theorem demand_of_get (hmethod : request.method = "GET")
    (h : request.Addresses org [nameSpace, name]) :
    request.demand = .get ⟨org, nameSpace, name⟩ := by
  rw [demand_eq_demandOf h]
  simp only [demandOf, hmethod]

theorem demand_of_delete (hmethod : request.method = "DELETE")
    (h : request.Addresses org [nameSpace, name]) :
    request.demand = .delete ⟨org, nameSpace, name⟩ := by
  rw [demand_eq_demandOf h]
  simp only [demandOf, hmethod]

/-- A demand that is no refusal comes from a request for an organisation with a path. -/
theorem exists_addresses (h : ∀ response, request.demand ≠ .refused response) :
    ∃ org pieces, request.Addresses org pieces ∧ request.demand = request.demandOf org pieces := by
  rw [demand] at h
  cases hheader : request.header? orgHeader with
  | none => rw [hheader] at h; exact absurd rfl (h _)
  | some org =>
    cases hpath : pathPieces? request.path with
    | none => simp only [hheader, hpath] at h; exact absurd rfl (h _)
    | some pieces =>
      have haddresses := addresses_iff.2 ⟨hheader, hpath⟩
      exact ⟨org, pieces, haddresses, demand_eq_demandOf haddresses⟩

theorem writes_of_put (h : request.demand = .put org nameSpace group) :
    request.Writes ⟨org, nameSpace, group.name⟩ (some group) := by
  obtain ⟨org', pieces, haddresses, hdemand⟩ := exists_addresses (by rw [h]; nofun)
  rw [h] at hdemand
  unfold demandOf at hdemand
  split at hdemand
  · next hmethod =>
    split at hdemand
    · next hread =>
      cases hdemand
      exact .put hmethod haddresses hread
    · cases hdemand
  all_goals cases hdemand

theorem writes_of_delete {key : GroupKey} (h : request.demand = .delete key) :
    request.Writes key none := by
  obtain ⟨org', pieces, haddresses, hdemand⟩ := exists_addresses (by rw [h]; nofun)
  rw [h] at hdemand
  unfold demandOf at hdemand
  split at hdemand
  · split at hdemand <;> cases hdemand
  · cases hdemand
  · next hmethod =>
    cases hdemand
    exact .delete hmethod haddresses
  · cases hdemand

/-- A request writes what it demands to be put or deleted. -/
theorem writes_iff {key : GroupKey} {cell : Option RuleGroup} :
    request.Writes key cell ↔
      (∃ org nameSpace group, request.demand = .put org nameSpace group ∧
        key = ⟨org, nameSpace, group.name⟩ ∧ cell = some group) ∨
      request.demand = .delete key ∧ cell = none := by
  constructor
  · rintro (⟨hmethod, haddresses, hread⟩ | ⟨hmethod, haddresses⟩)
    · exact .inl ⟨_, _, _, demand_of_post hmethod haddresses hread, rfl, rfl⟩
    · exact .inr ⟨demand_of_delete hmethod haddresses, rfl⟩
  · rintro (⟨org, nameSpace, group, hdemand, rfl, rfl⟩ | ⟨hdemand, rfl⟩)
    · exact writes_of_put hdemand
    · exact writes_of_delete hdemand

/-- A request has one key at most, to which it writes one thing. -/
theorem Writes.unique {key key' : GroupKey} {cell cell' : Option RuleGroup}
    (h : request.Writes key cell) (h' : request.Writes key' cell') : key = key' ∧ cell = cell' := by
  rcases writes_iff.1 h with ⟨_, _, _, hdemand, rfl, rfl⟩ | ⟨hdemand, rfl⟩ <;>
    rcases writes_iff.1 h' with ⟨_, _, _, hdemand', rfl, rfl⟩ | ⟨hdemand', rfl⟩ <;>
    rw [hdemand] at hdemand' <;> cases hdemand' <;> exact ⟨rfl, rfl⟩

end Request

/-! ### One request -/

namespace Ruler

variable (r : Ruler)

/-- What a ruler has set is no reason to answer the request otherwise, so it does what it
writes. -/
def Effective (request : Request) (key : GroupKey) (cell : Option RuleGroup) : Prop :=
  r.forced.get? request.method = none ∧ request.Writes key cell

/-- What is not accepted changes nothing. -/
theorem perform_of_not_accepted {demand : Demand} (h : (r.perform demand).1 ≠ .accepted) :
    (r.perform demand).2 = r := by
  cases demand with
  | refused response => rfl
  | put org nameSpace group => exact absurd rfl h
  | get asked =>
    rw [perform]
    cases r.group? asked <;> rfl
  | delete asked =>
    rw [perform] at h ⊢
    cases hcell : r.group? asked with
    | none => rfl
    | some group =>
      rw [hcell] at h
      exact absurd rfl h

variable {r} {request : Request} {key : GroupKey}

theorem handle_of_forced {response : Response}
    (h : r.forced.get? request.method = some response) :
    r.handle request = (response, { r with requests := r.requests ++ [request] }) := by
  rw [handle, h]

theorem handle_of_not_forced (h : r.forced.get? request.method = none) :
    r.handle request =
      ({ r with requests := r.requests ++ [request] } : Ruler).perform request.demand := by
  rw [handle, h]

/-- An effective write leaves under its key what it writes. -/
theorem group?_of_effective {cell : Option RuleGroup} (h : r.Effective request key cell) :
    (r.handle request).2.group? key = cell := by
  rw [handle_of_not_forced h.1]
  rcases Request.writes_iff.1 h.2 with ⟨_, _, _, hdemand, rfl, rfl⟩ | ⟨hdemand, rfl⟩
  · rw [hdemand]
    exact group?_perform_of_key _ rfl
  · rw [hdemand]
    exact group?_perform_of_key _ rfl

/-- Under a key to which a request does not write there is what there was. -/
theorem group?_of_not_effective (h : ∀ cell, ¬ r.Effective request key cell) :
    (r.handle request).2.group? key = r.group? key := by
  cases hforced : r.forced.get? request.method with
  | some response => rw [handle_of_forced hforced]; rfl
  | none =>
    rw [handle_of_not_forced hforced]
    by_cases hkey : request.demand.key? = some key
    · -- a demand for the key that does not write to it reads it
      refine (group?_perform_of_key _ hkey).trans ?_
      cases hdemand : request.demand with
      | refused response => rfl
      | get asked => rfl
      | put org nameSpace group =>
        rw [hdemand] at hkey
        cases hkey
        exact absurd ⟨hforced, Request.writes_of_put hdemand⟩ (h _)
      | delete asked =>
        rw [hdemand] at hkey
        cases hkey
        exact absurd ⟨hforced, Request.writes_of_delete hdemand⟩ (h _)
    · exact group?_perform_of_ne _ hkey

/-- A request writes nothing if it is a read, if it gets a forced response, or if it is not
accepted. -/
theorem group?_of_no_write (h : request.method = "GET" ∨
      (∃ response, r.forced.get? request.method = some response) ∨
      (r.handle request).1.status ≠ 202) (key : GroupKey) :
    (r.handle request).2.group? key = r.group? key := by
  cases hforced : r.forced.get? request.method with
  | some response => rw [handle_of_forced hforced]; rfl
  | none =>
    rcases h with hget | ⟨response, hresponse⟩ | hstatus
    · refine group?_of_not_effective fun cell heffective => ?_
      rcases heffective.2 with ⟨hpost, -, -⟩ | ⟨hdelete, -⟩
      · exact absurd (hget.symm.trans hpost) (by decide)
      · exact absurd (hget.symm.trans hdelete) (by decide)
    · rw [hforced] at hresponse; cases hresponse
    · rw [handle_of_not_forced hforced] at hstatus ⊢
      rw [perform_of_not_accepted]
      · rfl
      · exact fun haccepted => hstatus (congrArg Response.status haccepted)

/-- A request changes one key at most. -/
theorem exists_changed_key (r : Ruler) (request : Request) :
    ∃ key, ∀ other, other ≠ key → (r.handle request).2.group? other = r.group? other := by
  by_cases h : ∃ key cell, r.Effective request key cell
  · obtain ⟨key, cell, heffective⟩ := h
    refine ⟨key, fun other hne => group?_of_not_effective fun cell' heffective' => ?_⟩
    exact hne (heffective'.2.unique heffective.2).1
  · exact ⟨default, fun other _ => group?_of_not_effective fun cell heffective =>
      h ⟨other, cell, heffective⟩⟩

/-- What is read is what is kept, passed through the function that is set. -/
theorem handle_get {org nameSpace name : String} (hforced : r.forced.get? request.method = none)
    (hmethod : request.method = "GET") (h : request.Addresses org [nameSpace, name]) :
    (r.handle request).1 = match r.group? ⟨org, nameSpace, name⟩ with
      | some group => ⟨200, (r.echo group).write⟩
      | none => ⟨404, "group does not exist"⟩ := by
  have hlogged : ({ r with requests := r.requests ++ [request] } : Ruler).group?
      ⟨org, nameSpace, name⟩ = r.group? ⟨org, nameSpace, name⟩ := rfl
  rw [handle_of_not_forced hforced, Request.demand_of_get hmethod h, perform, hlogged]
  cases r.group? ⟨org, nameSpace, name⟩ <;> rfl

/-! ### All requests -/

theorem after_settings (r : Ruler) (requests : List Request) :
    (after serve r requests).requests = r.requests ++ requests ∧
      (after serve r requests).forced = r.forced ∧ (after serve r requests).echo = r.echo := by
  induction requests using List.reverseRecOn with
  | nil => exact ⟨(List.append_nil _).symm, rfl, rfl⟩
  | append_singleton requests request ih =>
    obtain ⟨hrequests, hforced, hecho⟩ := handle_settings (after serve r requests) request
    rw [after_concat]
    refine ⟨?_, hforced.trans ih.2.1, hecho.trans ih.2.2⟩
    rw [← List.append_assoc, ← ih.1]
    exact hrequests

/-- After any requests a key has what the last effective write to it left there. -/
theorem group?_after (r : Ruler) (requests : List Request) (key : GroupKey) :
    (∃ before request behind cell, requests = before ++ request :: behind ∧
      r.Effective request key cell ∧
      (∀ later ∈ behind, ∀ cell', ¬ r.Effective later key cell') ∧
      (after serve r requests).group? key = cell) ∨
    ((∀ request ∈ requests, ∀ cell, ¬ r.Effective request key cell) ∧
      (after serve r requests).group? key = r.group? key) := by
  induction requests using List.reverseRecOn with
  | nil => exact .inr ⟨nofun, rfl⟩
  | append_singleton requests last ih =>
    rw [after_concat]
    have hforced := (after_settings r requests).2.1
    by_cases hlast : ∃ cell, r.Effective last key cell
    · obtain ⟨cell, hcell⟩ := hlast
      refine .inl ⟨requests, last, [], cell, rfl, hcell, nofun, ?_⟩
      exact group?_of_effective ⟨hforced ▸ hcell.1, hcell.2⟩
    · -- the last request leaves the key as it was
      have hnot : ∀ cell, ¬ r.Effective last key cell := fun cell hcell => hlast ⟨cell, hcell⟩
      have hkept : (serve (after serve r requests) last).2.group? key =
          (after serve r requests).group? key :=
        group?_of_not_effective fun cell hcell => hnot cell ⟨hforced ▸ hcell.1, hcell.2⟩
      rw [hkept]
      rcases ih with ⟨before, request, behind, cell, rfl, hcell, hbehind, hgroup⟩ | ⟨hnone, hgroup⟩
      · refine .inl ⟨before, request, behind ++ [last], cell, by simp, hcell, ?_, hgroup⟩
        intro later hlater
        rcases List.mem_append.1 hlater with hlater | hlater
        · exact hbehind later hlater
        · exact List.mem_singleton.1 hlater ▸ hnot
      · refine .inr ⟨?_, hgroup⟩
        intro request hrequest
        rcases List.mem_append.1 hrequest with hrequest | hrequest
        · exact hnone request hrequest
        · exact List.mem_singleton.1 hrequest ▸ hnot

/-- A ruler keeps what was written last, whatever it is asked and whatever it has set.  Every
request is recorded, in order; it changes one key at most, and none if it is a read, gets a
forced response or is not accepted; and a read that gets no forced response is answered with
the document of what is kept, passed through the function that is set. -/
theorem last_write_wins (r : Ruler) (requests : List Request) :
    let s := after serve r requests
    (∀ key,
      (∃ before request behind cell, requests = before ++ request :: behind ∧
        r.Effective request key cell ∧
        (∀ later ∈ behind, ∀ cell', ¬ r.Effective later key cell') ∧ s.group? key = cell) ∨
      ((∀ request ∈ requests, ∀ cell, ¬ r.Effective request key cell) ∧
        s.group? key = r.group? key)) ∧
    s.requests = r.requests ++ requests ∧
    ∀ request,
      (∃ key, ∀ other, other ≠ key → (s.handle request).2.group? other = s.group? other) ∧
      (request.method = "GET" ∨ (∃ response, r.forced.get? request.method = some response) ∨
          (s.handle request).1.status ≠ 202 →
        ∀ key, (s.handle request).2.group? key = s.group? key) ∧
      ∀ org nameSpace name, r.forced.get? request.method = none → request.method = "GET" →
        request.Addresses org [nameSpace, name] →
        (s.handle request).1 = match s.group? ⟨org, nameSpace, name⟩ with
          | some group => ⟨200, (r.echo group).write⟩
          | none => ⟨404, "group does not exist"⟩ := by
  intro s
  obtain ⟨hrequests, hforced, hecho⟩ := after_settings r requests
  refine ⟨group?_after r requests, hrequests, fun request => ⟨exists_changed_key s request, ?_, ?_⟩⟩
  · rw [← hforced]
    exact group?_of_no_write
  · intro org nameSpace name
    rw [← hforced, ← hecho]
    exact handle_get

end Ruler

end AlertRules
