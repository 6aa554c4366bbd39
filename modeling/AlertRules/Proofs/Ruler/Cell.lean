/-
AlertRules/Proofs/Ruler/Cell.lean

A ruler seen one key at a time.  What a demand for a key is answered, and what it leaves
under the key, depends on what was there and on nothing else, so to the demands for one
key a ruler is no more than a cell that holds a group or none (`serveCell`).

Requests are served one by one in that way (`serve_cell`).  An exchange all of whose
requests are for one key (`Exchange.At`) therefore has the result that it has with the
cell, leaves in its key what it leaves in the cell, and leaves every other key alone
(`run_cell`).  These answers are those of rulers in which nothing is set that changes what
they do (`Ruler.IsPlain`); what is left under the keys is the same for all rulers.
-/
import AlertRules.Ruler
import AlertRules.Ruler.Exchange

namespace AlertRules

/-! ### Demands for one key -/

namespace Demand

/-- The key that a demand is for; what is refused is for none. -/
def key? : Demand → Option GroupKey
  | .put org nameSpace group => some ⟨org, nameSpace, group.name⟩
  | .get key => some key
  | .delete key => some key
  | .refused _ => none

/-- The response to a demand for a key under which there is `cell`. -/
def response (cell : Option RuleGroup) : Demand → Response
  | .put _ _ _ => .accepted
  | .get _ => (cell.map fun group => ⟨200, group.write⟩).getD .noGroup
  | .delete _ => (cell.map fun _ => .accepted).getD .noGroup
  | .refused response => response

/-- What a demand leaves under a key under which there was `cell`. -/
def leaves (cell : Option RuleGroup) : Demand → Option RuleGroup
  | .put _ _ group => some group
  | .get _ => cell
  | .delete _ => none
  | .refused _ => cell

end Demand

namespace Ruler

/-- Nothing is set that changes what the ruler does. -/
structure IsPlain (r : Ruler) : Prop where
  forced : ∀ method, r.forced.get? method = none
  echo : r.echo = id

theorem isPlain_empty : empty.IsPlain := ⟨fun _ => rfl, rfl⟩

theorem group?_empty (key : GroupKey) : empty.group? key = none := Table.get?_empty key

/-- The ruler `r'` is plain and has the groups of `r`, except that under `key` there
is `cell`. -/
structure Becomes (r : Ruler) (key : GroupKey) (cell : Option RuleGroup) (r' : Ruler) :
    Prop where
  plain : r'.IsPlain
  here : r'.group? key = cell
  elsewhere : ∀ other, other ≠ key → r'.group? other = r.group? other

theorem Becomes.refl {r : Ruler} (h : r.IsPlain) (key : GroupKey) :
    r.Becomes key (r.group? key) r := ⟨h, rfl, fun _ _ => rfl⟩

theorem Becomes.trans {r r' r'' : Ruler} {key : GroupKey} {cell cell' : Option RuleGroup}
    (h : r.Becomes key cell r') (h' : r'.Becomes key cell' r'') : r.Becomes key cell' r'' :=
  ⟨h'.plain, h'.here, fun other hne => (h'.elsewhere other hne).trans (h.elsewhere other hne)⟩

/-! ### What a demand changes -/

section Changes

variable (r : Ruler)

/-- Only the groups change. -/
theorem perform_settings (demand : Demand) :
    (r.perform demand).2 = { r with groups := (r.perform demand).2.groups } := by
  cases demand with
  | put => rfl
  | refused => rfl
  | get key =>
    rw [perform]
    cases r.group? key <;> rfl
  | delete key =>
    rw [perform]
    cases r.group? key <;> rfl

/-- A request is recorded, and what is set stays as it is. -/
theorem handle_settings (request : Request) :
    (r.handle request).2.requests = r.requests ++ [request] ∧
      (r.handle request).2.forced = r.forced ∧ (r.handle request).2.echo = r.echo := by
  rw [handle]
  cases r.forced.get? request.method with
  | some response => exact ⟨rfl, rfl, rfl⟩
  | none =>
    simp only
    rw [perform_settings]
    exact ⟨rfl, rfl, rfl⟩

/-- A demand for a key leaves there what it leaves of what was there. -/
theorem group?_perform_of_key {demand : Demand} {key : GroupKey} (h : demand.key? = some key) :
    (r.perform demand).2.group? key = demand.leaves (r.group? key) := by
  cases demand with
  | refused response => cases h
  | put org nameSpace group =>
    cases h
    exact (r.groups.get?_insert _ _ _).trans (if_pos rfl)
  | get asked =>
    cases h
    rw [perform]
    cases hcell : r.group? key <;> exact hcell
  | delete asked =>
    cases h
    rw [perform]
    cases hcell : r.group? key with
    | none => exact hcell
    | some group => exact (r.groups.get?_erase _ _).trans (if_pos rfl)

theorem group?_perform_of_ne {demand : Demand} {key : GroupKey} (h : demand.key? ≠ some key) :
    (r.perform demand).2.group? key = r.group? key := by
  cases demand with
  | refused response => rfl
  | put org nameSpace group =>
    exact (r.groups.get?_insert _ _ _).trans (if_neg fun hkey => h (congrArg some hkey.symm))
  | get asked =>
    rw [perform]
    cases r.group? asked <;> rfl
  | delete asked =>
    rw [perform]
    cases r.group? asked with
    | none => rfl
    | some group =>
      exact (r.groups.get?_erase _ _).trans (if_neg fun hkey => h (congrArg some hkey.symm))

end Changes

/-! ### One request -/

theorem perform_response {r : Ruler} (h : r.IsPlain) {demand : Demand} {key : GroupKey}
    (hkey : demand.key? = some key) :
    (r.perform demand).1 = demand.response (r.group? key) := by
  cases demand with
  | put => rfl
  | refused => cases hkey
  | get asked =>
    cases hkey
    rw [perform, Demand.response]
    cases r.group? key with
    | none => rfl
    | some group =>
      rw [h.echo]
      rfl
  | delete asked =>
    cases hkey
    rw [perform, Demand.response]
    cases r.group? key <;> rfl

theorem perform_becomes {r : Ruler} (h : r.IsPlain) {demand : Demand} {key : GroupKey}
    (hkey : demand.key? = some key) :
    r.Becomes key (demand.leaves (r.group? key)) (r.perform demand).2 := by
  refine ⟨?_, r.group?_perform_of_key hkey, fun other hne => r.group?_perform_of_ne ?_⟩
  · rw [perform_settings]
    exact ⟨h.forced, h.echo⟩
  · rw [hkey]
    exact fun heq => hne (Option.some.inj heq).symm

/-- The ruler as one that can be asked: it always has an answer. -/
def serve (r : Ruler) (request : Request) : Answer × Ruler :=
  (.ok (r.handle request).1, (r.handle request).2)

/-- What a ruler is to the requests for one key. -/
def serveCell (cell : Option RuleGroup) (request : Request) : Answer × Option RuleGroup :=
  (.ok (request.demand.response cell), request.demand.leaves cell)

/-- A request is answered as the cell of its key answers it, and changes that cell only. -/
theorem serve_cell {r : Ruler} (h : r.IsPlain) {request : Request} {key : GroupKey}
    (hkey : request.demand.key? = some key) :
    (r.serve request).1 = (serveCell (r.group? key) request).1 ∧
      r.Becomes key (serveCell (r.group? key) request).2 (r.serve request).2 := by
  -- recording a request touches no group
  let logged : Ruler := { r with requests := r.requests ++ [request] }
  have hlogged : logged.IsPlain := ⟨h.forced, h.echo⟩
  have hhandle : r.handle request = logged.perform request.demand := by
    rw [handle, h.forced]
  rw [serve, serveCell, hhandle]
  constructor
  · exact congrArg Except.ok (perform_response hlogged hkey)
  · have hbecomes := perform_becomes hlogged hkey
    exact ⟨hbecomes.plain, hbecomes.here, hbecomes.elsewhere⟩

end Ruler

/-! ### Exchanges about one key -/

namespace Exchange

variable {α β : Type}

/-- Every request that the exchange may come to send is for the key. -/
inductive At (key : GroupKey) : Exchange α → Prop
  | done (a : α) : At key (.done a)
  | send {request : Request} {next : Answer → Exchange α} :
      request.demand.key? = some key → (∀ answer, At key (next answer)) →
      At key (.send request next)

theorem At.of_send {key : GroupKey} {request : Request} {next : Answer → Exchange α}
    (h : (Exchange.send request next).At key) :
    request.demand.key? = some key ∧ ∀ answer, (next answer).At key := by
  cases h with
  | send hkey hnext => exact ⟨hkey, hnext⟩

theorem At.ask {key : GroupKey} {request : Request} (h : request.demand.key? = some key)
    (judge : Answer → α) : (ask request judge).At key :=
  .send h fun answer => .done (judge answer)

theorem At.bind {key : GroupKey} {x : Exchange α} {f : α → Exchange β} (hx : x.At key)
    (hf : ∀ a, (f a).At key) : (x.bind f).At key := by
  induction hx with
  | done a => exact hf a
  | send hkey _ ih => exact .send hkey ih

theorem At.map {key : GroupKey} {x : Exchange α} (hx : x.At key) (f : α → β) :
    (x.map f).At key :=
  hx.bind fun a => .done (f a)

/-- With a plain ruler an exchange about one key does what it does with the cell. -/
theorem run_cell {key : GroupKey} {x : Exchange α} (hx : x.At key) {r : Ruler}
    (h : r.IsPlain) :
    (x.run Ruler.serve r).1 = (x.run Ruler.serveCell (r.group? key)).1 ∧
      r.Becomes key (x.run Ruler.serveCell (r.group? key)).2 (x.run Ruler.serve r).2 := by
  induction hx generalizing r with
  | done a => exact ⟨rfl, .refl h key⟩
  | @send request next hkey _ ih =>
    obtain ⟨hanswer, hbecomes⟩ := Ruler.serve_cell h hkey
    obtain ⟨hresult, hrest⟩ :=
      ih (Ruler.serveCell (r.group? key) request).1 hbecomes.plain
    rw [hbecomes.here] at hresult hrest
    have hrun : (send request next).run Ruler.serve r =
        (next (Ruler.serveCell (r.group? key) request).1).run Ruler.serve
          (r.serve request).2 := by
      rw [← hanswer]
      rfl
    rw [hrun]
    exact ⟨hresult, hbecomes.trans hrest⟩

end Exchange

end AlertRules
