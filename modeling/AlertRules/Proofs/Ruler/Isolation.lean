/-
AlertRules/Proofs/Ruler/Isolation.lean

Who is not affected by whom at a ruler.  An order of turns says which of several exchanges
sends its next request when (`Session.turns`); leaving some of the exchanges out of a session
is leaving their turns out of the order.

For that to make no difference to the others, three things have to hold of single requests
(`Separates`): in states that are alike to the others, a request of theirs has the same
answer, and it leads to states that are alike; and a request that is not theirs leads to a
state that is alike to the one before.  From these the rest follows for all orders, by
induction on the order (`Separates.turns_filter`).

A ruler separates the organisations in this way (`Ruler.separates`).  Rulers are alike to an
organisation if they have the same settings and the same groups under its keys, and no request
touches a key of an organisation that is not its own.
-/
import AlertRules.Proofs.Ruler.History

namespace AlertRules

open Function (update update_self update_of_ne)

variable {ι α β σ : Type}

/-! ### What an exchange may send -/

namespace Exchange

/-- Every request that the exchange may come to send has the property. -/
inductive Sends (P : Request → Prop) : Exchange α → Prop
  | done (a : α) : Sends P (.done a)
  | send {request : Request} {next : Answer → Exchange α} :
      P request → (∀ answer, Sends P (next answer)) → Sends P (.send request next)

variable {P Q : Request → Prop} {request : Request}

theorem Sends.of_send {next : Answer → Exchange α} (h : (Exchange.send request next).Sends P) :
    P request ∧ ∀ answer, (next answer).Sends P := by
  cases h with
  | send hrequest hnext => exact ⟨hrequest, hnext⟩

theorem Sends.ask (h : P request) (judge : Answer → α) : (ask request judge).Sends P :=
  .send h fun answer => .done (judge answer)

theorem Sends.bind {x : Exchange α} {f : α → Exchange β} (hx : x.Sends P)
    (hf : ∀ a, (f a).Sends P) : (x.bind f).Sends P := by
  induction hx with
  | done a => exact hf a
  | send hrequest _ ih => exact .send hrequest ih

theorem Sends.map {x : Exchange α} (hx : x.Sends P) (f : α → β) : (x.map f).Sends P :=
  hx.bind fun a => .done (f a)

theorem Sends.mono {x : Exchange α} (hPQ : ∀ request, P request → Q request) (hx : x.Sends P) :
    x.Sends Q := by
  induction hx with
  | done a => exact .done a
  | send hrequest _ ih => exact .send (hPQ _ hrequest) ih

end Exchange

/-! ### Turns -/

/-- Exchanges under way with one ruler: what is left of each of them, and the state that the
ruler is in. -/
structure Session (ι α σ : Type) where
  left : ι → Exchange α
  state : σ

namespace Session

variable [DecidableEq ι] {serve : σ → Request → Answer × σ} {s : Session ι α σ} {i : ι}

/-- One of the exchanges sends its next request, if it has not come to its end. -/
def turn (serve : σ → Request → Answer × σ) (s : Session ι α σ) (i : ι) : Session ι α σ :=
  match s.left i with
  | .done _ => s
  | .send request next =>
    ⟨update s.left i (next (serve s.state request).1), (serve s.state request).2⟩

/-- The exchanges take turns in an order. -/
def turns (serve : σ → Request → Answer × σ) (s : Session ι α σ) (order : List ι) :
    Session ι α σ :=
  order.foldl (turn serve) s

theorem turn_of_done {a : α} (h : s.left i = .done a) : s.turn serve i = s := by
  rw [turn, h]

theorem turn_of_send {request : Request} {next : Answer → Exchange α}
    (h : s.left i = .send request next) :
    s.turn serve i =
      ⟨update s.left i (next (serve s.state request).1), (serve s.state request).2⟩ := by
  rw [turn, h]

theorem left_turn_of_ne {j : ι} (hij : j ≠ i) : (s.turn serve i).left j = s.left j := by
  cases hi : s.left i with
  | done a => rw [turn_of_done hi]
  | send request next =>
    rw [turn_of_send hi]
    exact update_of_ne hij _ _

/-- What the exchanges of a kind may send, they may send after any turn. -/
theorem sends_turn {P : Request → Prop} {kind : ι → Prop}
    (h : ∀ j, kind j → (s.left j).Sends P) {j : ι} (hj : kind j) :
    ((s.turn serve i).left j).Sends P := by
  by_cases hij : j = i
  · subst hij
    have hsends := h j hj
    cases hleft : s.left j with
    | done a =>
      rw [turn_of_done hleft]
      exact hsends
    | send request next =>
      rw [hleft] at hsends
      rw [turn_of_send hleft]
      simp only [update_self]
      exact hsends.of_send.2 _
  · rw [left_turn_of_ne hij]
    exact h j hj

/-- A turn of an exchange does not change how it ends from there. -/
theorem run_turn (serve : σ → Request → Answer × σ) (s : Session ι α σ) (i : ι) :
    ((s.turn serve i).left i).run serve (s.turn serve i).state =
      (s.left i).run serve s.state := by
  cases hi : s.left i with
  | done a => rw [turn_of_done hi, hi]
  | send request next =>
    rw [turn_of_send hi]
    simp only [update_self]
    rfl

/-- If nobody else has a turn, an exchange ends as it does alone. -/
theorem run_turns_of_forall_eq (serve : σ → Request → Answer × σ) (s : Session ι α σ)
    {order : List ι} (h : ∀ j ∈ order, j = i) :
    ((s.turns serve order).left i).run serve (s.turns serve order).state =
      (s.left i).run serve s.state := by
  induction order generalizing s with
  | nil => rfl
  | cons j order ih =>
    obtain rfl : j = i := h j (.head _)
    exact (ih _ fun k hk => h k (.tail _ hk)).trans (run_turn serve s j)

/-- The exchanges of a pool can be served to their ends in some order of turns, and in no
other way. -/
theorem interleaved_iff_turns {pool : ι → Exchange α} {a b : σ} {results : ι → α} :
    Interleaved serve pool a results b ↔
      ∃ order, turns serve ⟨pool, a⟩ order = ⟨fun i => .done (results i), b⟩ := by
  constructor
  · intro h
    induction h with
    | finished results s => exact ⟨[], rfl⟩
    | @served pool s _ _ i request next hi _ ih =>
      obtain ⟨order, horder⟩ := ih
      refine ⟨i :: order, ?_⟩
      have hturn : turn serve ⟨pool, s⟩ i =
          ⟨update pool i (next (serve s request).1), (serve s request).2⟩ :=
        turn_of_send (s := ⟨pool, s⟩) hi
      rw [turns, List.foldl_cons, hturn]
      exact horder
  · rintro ⟨order, horder⟩
    induction order generalizing pool a with
    | nil =>
      cases horder
      exact .finished results b
    | cons i order ih =>
      rw [turns, List.foldl_cons] at horder
      cases hi : pool i with
      | done result =>
        -- a turn without a request leaves no trace in the interleaving
        rw [turn_of_done (s := ⟨pool, a⟩) hi] at horder
        exact ih horder
      | send request next =>
        rw [turn_of_send (s := ⟨pool, a⟩) hi] at horder
        exact .served i hi (ih horder)

end Session

/-! ### Leaving turns out -/

/-- To those who send the requests `P`, states may be alike.  Nothing that they are answered
tells such states apart, now or later, and nothing that others send makes a difference. -/
structure Separates (serve : σ → Request → Answer × σ) (P : Request → Prop)
    (Alike : σ → σ → Prop) : Prop where
  answer : ∀ {request s t}, P request → Alike s t → (serve s request).1 = (serve t request).1
  own : ∀ {request s t}, P request → Alike s t → Alike (serve s request).2 (serve t request).2
  others : ∀ {request s t}, ¬ P request → Alike s t → Alike (serve s request).2 t

namespace Separates

variable [DecidableEq ι] {serve : σ → Request → Answer × σ} {P : Request → Prop}
  {Alike : σ → σ → Prop} {mine : ι → Bool} {s t : Session ι α σ} {i : ι}

/-- Two sessions are in step: the rulers are alike, the same is left of all exchanges that
matter, and the exchanges send what they should. -/
structure InStep (P : Request → Prop) (Alike : σ → σ → Prop) (mine : ι → Bool)
    (s t : Session ι α σ) : Prop where
  alike : Alike s.state t.state
  same : ∀ i, mine i = true → s.left i = t.left i
  own : ∀ i, mine i = true → (s.left i).Sends P
  others : ∀ i, mine i = false → (s.left i).Sends fun request => ¬ P request

/-- Sessions stay in step when both take a turn that matters. -/
theorem InStep.turn_both (h : Separates serve P Alike) (hst : InStep P Alike mine s t)
    (hi : mine i = true) : InStep P Alike mine (s.turn serve i) (t.turn serve i) := by
  have hturn : Alike (s.turn serve i).state (t.turn serve i).state ∧
      (s.turn serve i).left i = (t.turn serve i).left i := by
    have hsame := hst.same i hi
    have hown := hst.own i hi
    cases hleft : s.left i with
    | done a =>
      rw [Session.turn_of_done hleft, Session.turn_of_done (hsame.symm.trans hleft)]
      exact ⟨hst.alike, hsame⟩
    | send request next =>
      rw [hleft] at hsame hown
      obtain ⟨hP, -⟩ := hown.of_send
      rw [Session.turn_of_send hleft, Session.turn_of_send hsame.symm]
      -- both send the same request, so both have the same answer to go on with
      refine ⟨h.own hP hst.alike, ?_⟩
      simp only [update_self, h.answer hP hst.alike]
  refine ⟨hturn.1, fun j hj => ?_, fun j hj => Session.sends_turn hst.own hj,
    fun j hj => Session.sends_turn hst.others hj⟩
  by_cases hij : j = i
  · rw [hij]
    exact hturn.2
  · rw [Session.left_turn_of_ne hij, Session.left_turn_of_ne hij]
    exact hst.same j hj

/-- Sessions stay in step when one of them takes a turn that does not matter. -/
theorem InStep.turn_left (h : Separates serve P Alike) (hst : InStep P Alike mine s t)
    (hi : mine i = false) : InStep P Alike mine (s.turn serve i) t := by
  have halike : Alike (s.turn serve i).state t.state := by
    have hothers := hst.others i hi
    cases hleft : s.left i with
    | done a =>
      rw [Session.turn_of_done hleft]
      exact hst.alike
    | send request next =>
      rw [hleft] at hothers
      rw [Session.turn_of_send hleft]
      exact h.others hothers.of_send.1 hst.alike
  refine ⟨halike, fun j hj => ?_, fun j hj => Session.sends_turn hst.own hj,
    fun j hj => Session.sends_turn hst.others hj⟩
  have hij : j ≠ i := by
    rintro rfl
    rw [hi] at hj
    cases hj
  rw [Session.left_turn_of_ne hij]
  exact hst.same j hj

/-- Leaving out all turns that do not matter makes no difference to the others. -/
theorem turns_filter (h : Separates serve P Alike) (hst : InStep P Alike mine s t)
    (order : List ι) :
    InStep P Alike mine (s.turns serve order) (t.turns serve (order.filter mine)) := by
  -- on the order: a turn that is filtered out is taken by the first session alone
  induction order generalizing s t with
  | nil => exact hst
  | cons i order ih =>
    cases hi : mine i with
    | true =>
      rw [List.filter_cons_of_pos hi]
      exact ih (hst.turn_both h hi)
    | false =>
      rw [List.filter_cons_of_neg (by simp [hi])]
      exact ih (hst.turn_left h hi)

end Separates

/-! ### Rulers -/

/-- The request is for the organisation. -/
def Request.IsFor (org : String) (request : Request) : Prop :=
  request.header? orgHeader = some org

/-- What a request writes is under a key of its organisation. -/
theorem Request.Writes.isFor {request : Request} {key : GroupKey} {cell : Option RuleGroup}
    (h : request.Writes key cell) : request.IsFor key.org := by
  cases h with
  | put _ haddresses _ => exact (addresses_iff.1 haddresses).1
  | delete _ haddresses => exact (addresses_iff.1 haddresses).1

/-- What a request demands is under a key of its organisation. -/
theorem Request.isFor_of_key? {request : Request} {key : GroupKey}
    (h : request.demand.key? = some key) : request.IsFor key.org := by
  have hrefused : ∀ response, request.demand ≠ .refused response := by
    intro response hdemand
    rw [hdemand] at h
    cases h
  obtain ⟨org, pieces, haddresses, hdemand⟩ := exists_addresses hrefused
  suffices horg : key.org = org from horg ▸ (addresses_iff.1 haddresses).1
  rw [hdemand] at h
  unfold demandOf at h
  split at h
  · split at h <;> cases h
    rfl
  · cases h
    rfl
  · cases h
    rfl
  · cases h

namespace Ruler

/-- Rulers with the same settings, and with the same groups of the organisation. -/
structure AlikeFor (org : String) (r s : Ruler) : Prop where
  forced : r.forced = s.forced
  echo : r.echo = s.echo
  group? : ∀ key : GroupKey, key.org = org → r.group? key = s.group? key

variable {org : String} {r s : Ruler} {request : Request}

theorem AlikeFor.refl (org : String) (r : Ruler) : r.AlikeFor org r := ⟨rfl, rfl, fun _ _ => rfl⟩

/-- What is demanded under a key of the organisation is answered alike. -/
theorem AlikeFor.perform (h : r.AlikeFor org s) {demand : Demand}
    (hdemand : ∀ key, demand.key? = some key → key.org = org) :
    (r.perform demand).1 = (s.perform demand).1 := by
  cases demand with
  | refused response => rfl
  | put => rfl
  | get key =>
    rw [Ruler.perform, Ruler.perform, h.group? key (hdemand key rfl), h.echo]
    cases s.group? key <;> rfl
  | delete key =>
    rw [Ruler.perform, Ruler.perform, h.group? key (hdemand key rfl)]
    cases s.group? key <;> rfl

theorem AlikeFor.answer (h : r.AlikeFor org s) (hrequest : request.IsFor org) :
    (r.serve request).1 = (s.serve request).1 := by
  refine congrArg Except.ok ?_
  cases hforced : r.forced.get? request.method with
  | some response => rw [handle_of_forced hforced, handle_of_forced (h.forced ▸ hforced)]
  | none =>
    rw [handle_of_not_forced hforced, handle_of_not_forced (h.forced ▸ hforced)]
    have hlogged : AlikeFor org { r with requests := r.requests ++ [request] }
        { s with requests := s.requests ++ [request] } := ⟨h.forced, h.echo, h.group?⟩
    refine hlogged.perform fun key hkey => ?_
    exact Option.some.inj ((Request.isFor_of_key? hkey).symm.trans hrequest)

/-- Any request leads from rulers that are alike to rulers that are alike. -/
theorem AlikeFor.serve (h : r.AlikeFor org s) (request : Request) :
    (r.serve request).2.AlikeFor org (s.serve request).2 := by
  obtain ⟨-, hforced, hecho⟩ := handle_settings r request
  obtain ⟨-, hforced', hecho'⟩ := handle_settings s request
  refine ⟨hforced.trans (h.forced.trans hforced'.symm), hecho.trans (h.echo.trans hecho'.symm), ?_⟩
  intro key hkey
  -- what is effective in one ruler is so in the other, since both force the same responses
  by_cases hwrites : ∃ cell, r.Effective request key cell
  · obtain ⟨cell, heffective⟩ := hwrites
    have heffective' : s.Effective request key cell := ⟨h.forced ▸ heffective.1, heffective.2⟩
    exact (group?_of_effective heffective).trans (group?_of_effective heffective').symm
  · have hr : (r.serve request).2.group? key = r.group? key :=
      group?_of_not_effective fun cell heffective => hwrites ⟨cell, heffective⟩
    have hs : (s.serve request).2.group? key = s.group? key :=
      group?_of_not_effective fun cell heffective =>
        hwrites ⟨cell, h.forced ▸ heffective.1, heffective.2⟩
    exact hr.trans ((h.group? key hkey).trans hs.symm)

/-- A request of another organisation leaves a ruler that is alike. -/
theorem alikeFor_of_not_isFor (r : Ruler) (hrequest : ¬ request.IsFor org) :
    (r.serve request).2.AlikeFor org r := by
  obtain ⟨-, hforced, hecho⟩ := handle_settings r request
  refine ⟨hforced, hecho, fun key hkey => group?_of_not_effective fun cell heffective => ?_⟩
  exact hrequest (hkey ▸ heffective.2.isFor)

theorem AlikeFor.trans {t : Ruler} (h : r.AlikeFor org s) (h' : s.AlikeFor org t) :
    r.AlikeFor org t :=
  ⟨h.forced.trans h'.forced, h.echo.trans h'.echo,
    fun key hkey => (h.group? key hkey).trans (h'.group? key hkey)⟩

/-- A ruler separates an organisation from all others. -/
theorem separates (org : String) : Separates serve (Request.IsFor org) (AlikeFor org) where
  answer hrequest h := h.answer hrequest
  own _ h := h.serve _
  others hrequest h := (alikeFor_of_not_isFor _ hrequest).trans h

end Ruler

end AlertRules
