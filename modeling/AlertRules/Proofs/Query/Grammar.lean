/-
AlertRules/Proofs/Query/Grammar.lean

The syntax tree of a query to which `and` and more tokens are appended.  No reader below
expressions takes `and` for a part of what it reads, so each leaves it, and what is behind it,
to those that called it (`labels?_append` to `laterGrouping?_append`).

The readers of expressions call each other, so for them this is one statement (`Keeps`), by
induction on the fuel with one step for each reader.  Expressions take in operators, and `and`
is one: an expression that ends where the tokens ended is left as it is only where operators
are asked for that bind more tightly.
-/
import AlertRules.Query.Grammar

namespace AlertRules.Query

/-- The tokens start with the operator `and`. -/
def StartsAnd (s : List Token) : Prop := ∃ w t, s = .keyword .andOp w :: t

variable {s ts r : List Token}

/-- Another token that comes first was there before. -/
theorem StartsAnd.of_append (hs : StartsAnd s) {a : Token} (h : ts ++ s = a :: r)
    (ha : ∀ w, a ≠ .keyword .andOp w) : ∃ r', ts = a :: r' := by
  obtain ⟨w, t, rfl⟩ := hs
  cases ts with
  | nil =>
    injection h with hhead
    exact absurd hhead.symm (ha w)
  | cons b r' =>
    injection h with hhead
    exact ⟨r', by rw [hhead]⟩

/-! ### Labels and matchers -/

theorem labels?_append {ls : List (List Char)} (h : labels? ts = some (ls, r)) :
    labels? (ts ++ s) = some (ls, r ++ s) := by
  fun_induction labels? ts generalizing ls r with
  | case1 => cases h; rfl
  | case2 t r' hne ih =>
    simp only [Option.bind_eq_bind, Option.bind_eq_some_iff] at h
    obtain ⟨label, hlabel, ⟨more, r''⟩, hmore, ⟨⟩⟩ := h
    rw [List.cons_append, List.cons_append, labels?, hlabel, ih hmore]
    · rfl
    · exact hne
  | case3 t r' hne =>
    obtain ⟨label, hlabel, ⟨⟩⟩ := Option.map_eq_some_iff.1 h
    rw [List.cons_append, List.cons_append, labels?, hlabel]
    · rfl
    · exact hne
  | case4 => cases h

theorem matchers?_append (hs : StartsAnd s) {ms : List Matcher}
    (h : matchers? ts = some (ms, r)) : matchers? (ts ++ s) = some (ms, r ++ s) := by
  fun_induction matchers? ts generalizing ms r with
  | case1 label op value r' =>
    obtain ⟨op', hop, ⟨⟩⟩ := Option.map_eq_some_iff.1 h
    simp only [List.cons_append, matchers?, hop, Option.map_some]
  | case2 label op value r' =>
    obtain ⟨op', hop, ⟨⟩⟩ := Option.map_eq_some_iff.1 h
    simp only [List.cons_append, matchers?, hop, Option.map_some]
  | case3 label op value r' hne ih =>
    simp only [Option.bind_eq_bind, Option.bind_eq_some_iff] at h
    obtain ⟨op', hop, ⟨more, r''⟩, hmore, ⟨⟩⟩ := h
    simp only [List.cons_append]
    rw [matchers?, hop, ih hmore]
    · rfl
    · -- the appended tokens do not start with a brace
      intro r'' hr
      obtain ⟨r₀, hr₀⟩ := hs.of_append hr fun _ => nofun
      exact hne r₀ hr₀
  | case4 label op value text r' ih =>
    simp only [Option.bind_eq_bind, Option.bind_eq_some_iff] at h
    obtain ⟨op', hop, ⟨more, r''⟩, hmore, ⟨⟩⟩ := h
    simp only [List.cons_append, matchers?, hop, ih hmore]
    rfl
  | case5 => cases h

theorem braced?_append (hs : StartsAnd s) {ms : List Matcher} (h : braced? ts = some (ms, r)) :
    braced? (ts ++ s) = some (ms, r ++ s) := by
  unfold braced? at h
  split at h
  · cases h
    rfl
  · next hne =>
    rw [braced?]
    · exact matchers?_append hs h
    · intro r' hr
      obtain ⟨r₀, hr₀⟩ := hs.of_append hr fun _ => nofun
      exact hne r₀ hr₀

theorem selector?_append (hs : StartsAnd s) {metric : List Char} {e : Expr}
    (h : selector? metric ts = some (e, r)) : selector? metric (ts ++ s) = some (e, r ++ s) := by
  unfold selector? at h
  split at h
  · obtain ⟨⟨ms, r'⟩, hms, ⟨⟩⟩ := Option.map_eq_some_iff.1 h
    rw [List.cons_append, selector?, braced?_append hs hms]
    rfl
  · next hne =>
    cases h
    rw [selector?]
    intro r' hr
    obtain ⟨r₀, hr₀⟩ := hs.of_append hr fun _ => nofun
    exact hne r₀ hr₀

/-! ### What stands between an operator and its operand -/

theorem group?_append (hs : StartsAnd s) {added : Option (List (List Char))}
    (h : group? ts = some (added, r)) : group? (ts ++ s) = some (added, r ++ s) := by
  have hparen : ∀ {r' : List Token}, (∀ r₀, r' = .openParen :: r₀ → False) →
      ∀ r₀, r' ++ s = .openParen :: r₀ → False := by
    intro r' hne r₀ hr
    obtain ⟨r₁, hr₁⟩ := hs.of_append hr fun _ => nofun
    exact hne r₁ hr₁
  unfold group? at h
  split at h
  · obtain ⟨⟨ls, r'⟩, hls, ⟨⟩⟩ := Option.map_eq_some_iff.1 h
    simp only [List.cons_append, group?, labels?_append hls, Option.map_some]
  · obtain ⟨⟨ls, r'⟩, hls, ⟨⟩⟩ := Option.map_eq_some_iff.1 h
    simp only [List.cons_append, group?, labels?_append hls, Option.map_some]
  · next hne =>
    cases h
    rw [List.cons_append, group?]
    exact hparen hne
  · next hne =>
    cases h
    rw [List.cons_append, group?]
    exact hparen hne
  · next hleft hright =>
    cases h
    rw [group?]
    all_goals
      intro _ r' hr
      obtain ⟨r₀, hr₀⟩ := hs.of_append hr fun _ => nofun
    · exact hleft _ _ hr₀
    · exact hright _ _ hr₀
    · exact hleft _ _ hr₀
    · exact hright _ _ hr₀

theorem pairing?_append (hs : StartsAnd s) {p : Option Pairing}
    (h : pairing? ts = some (p, r)) : pairing? (ts ++ s) = some (p, r ++ s) := by
  unfold pairing? at h
  split at h
  · obtain ⟨⟨ls, r'⟩, hls, ⟨⟩⟩ := Option.map_eq_some_iff.1 h
    simp only [List.cons_append, pairing?, labels?_append hls, Option.map_some]
  · obtain ⟨⟨ls, r'⟩, hls, ⟨⟩⟩ := Option.map_eq_some_iff.1 h
    simp only [List.cons_append, pairing?, labels?_append hls, Option.map_some]
  · cases h
  · cases h
  · next hon hignoring =>
    cases h
    rw [pairing?]
    all_goals
      intro _ r' hr
      obtain ⟨r₀, hr₀⟩ := hs.of_append hr fun _ => nofun
    · exact hon _ _ hr₀
    · exact hignoring _ _ hr₀
    · exact hon _ _ hr₀
    · exact hignoring _ _ hr₀

theorem paired?_append (hs : StartsAnd s) {asBool : Bool} {m : Matching}
    (h : paired? asBool ts = some (m, r)) : paired? asBool (ts ++ s) = some (m, r ++ s) := by
  simp only [paired?, Option.bind_eq_bind, Option.bind_eq_some_iff] at h
  obtain ⟨⟨p, r'⟩, hp, h⟩ := h
  simp only [paired?, pairing?_append hs hp, Option.bind_eq_bind, Option.bind_some]
  cases p with
  | none =>
    cases h
    rfl
  | some p =>
    simp only [Option.bind_eq_some_iff] at h
    obtain ⟨⟨added, r''⟩, hadded, ⟨⟩⟩ := h
    simp only [group?_append hs hadded, Option.bind_some]
    rfl

theorem matching?_append (hs : StartsAnd s) {m : Matching}
    (h : matching? ts = some (m, r)) : matching? (ts ++ s) = some (m, r ++ s) := by
  unfold matching? at h
  split at h
  · exact paired?_append hs h
  · next hbool =>
    rw [matching?]
    · exact paired?_append hs h
    · intro _ r' hr
      obtain ⟨r₀, hr₀⟩ := hs.of_append hr fun _ => nofun
      exact hbool _ _ hr₀

/-! ### Modifiers -/

theorem moment?_append {m : Moment} (h : moment? ts = some (m, r)) :
    moment? (ts ++ s) = some (m, r ++ s) := by
  have hfinite : ∀ {n : Option Number} {r₀ : List Token}, moment?.finite? n r₀ = some (m, r) →
      moment?.finite? n (r₀ ++ s) = some (m, r ++ s) := by
    intro n r₀ h
    obtain ⟨n', hn', ⟨⟩⟩ := Option.map_eq_some_iff.1 h
    rw [moment?.finite?, hn']
    rfl
  unfold moment? at h
  split at h
  · exact hfinite h
  · exact hfinite h
  · exact hfinite h
  · cases h
    rfl
  · cases h
    rfl
  · cases h

theorem shift?_append {ms : Int} (h : shift? ts = some (ms, r)) :
    shift? (ts ++ s) = some (ms, r ++ s) := by
  unfold shift? at h
  split at h
  · obtain ⟨n, hn, ⟨⟩⟩ := Option.map_eq_some_iff.1 h
    simp only [List.cons_append, shift?, hn, Option.map_some]
  · obtain ⟨n, hn, ⟨⟩⟩ := Option.map_eq_some_iff.1 h
    simp only [List.cons_append, shift?, hn, Option.map_some]
  · obtain ⟨n, hn, ⟨⟩⟩ := Option.map_eq_some_iff.1 h
    simp only [List.cons_append, shift?, hn, Option.map_some]
  · cases h

theorem bracketed?_append {e e' : Expr} (h : bracketed? e ts = some (e', r)) :
    bracketed? e (ts ++ s) = some (e', r ++ s) := by
  unfold bracketed? at h
  split at h
  · simp only [Option.bind_eq_bind, Option.bind_eq_some_iff] at h
    obtain ⟨n, hn, a, ha, ⟨⟩⟩ := h
    simp only [List.cons_append, bracketed?, hn, ha, Option.bind_eq_bind, Option.bind_some]
    rfl
  · simp only [Option.bind_eq_bind, Option.bind_eq_some_iff] at h
    obtain ⟨n, hn, ⟨⟩⟩ := h
    simp only [List.cons_append, bracketed?, hn, Option.bind_eq_bind, Option.bind_some]
    rfl
  · simp only [Option.bind_eq_bind, Option.bind_eq_some_iff] at h
    obtain ⟨n, hn, k, hk, ⟨⟩⟩ := h
    simp only [List.cons_append, bracketed?, hn, hk, Option.bind_eq_bind, Option.bind_some]
    rfl
  · cases h

theorem modifier?_append (hs : StartsAnd s) {e : Expr} {found : Option (Expr × List Token)}
    (h : modifier? e ts = some found) :
    modifier? e (ts ++ s) = some (found.map fun (e', r) => (e', r ++ s)) := by
  unfold modifier? at h
  split at h
  · simp only [Option.bind_eq_bind, Option.bind_eq_some_iff] at h
    obtain ⟨⟨ms, r'⟩, hms, a, ha, ⟨⟩⟩ := h
    simp only [List.cons_append, modifier?, shift?_append hms, ha, Option.bind_eq_bind,
      Option.bind_some]
    rfl
  · simp only [Option.bind_eq_bind, Option.bind_eq_some_iff] at h
    obtain ⟨⟨m, r'⟩, hm, a, ha, ⟨⟩⟩ := h
    simp only [List.cons_append, modifier?, moment?_append hm, ha, Option.bind_eq_bind,
      Option.bind_some]
    rfl
  · obtain ⟨⟨e', r'⟩, he, ⟨⟩⟩ := Option.map_eq_some_iff.1 h
    simp only [List.cons_append, modifier?, bracketed?_append he, Option.map_some]
  · next hoffset hat hbracket =>
    cases h
    rw [modifier?]
    · rfl
    · intro _ r' hr
      obtain ⟨r₀, hr₀⟩ := hs.of_append hr fun _ => nofun
      exact hoffset _ _ hr₀
    · intro r' hr
      obtain ⟨r₀, hr₀⟩ := hs.of_append hr fun _ => nofun
      exact hat _ hr₀
    · intro r' hr
      obtain ⟨r₀, hr₀⟩ := hs.of_append hr fun _ => nofun
      exact hbracket _ hr₀

theorem modifiers?_append (hs : StartsAnd s) {n m : Nat} (hle : n ≤ m) {e e' : Expr}
    (h : modifiers? n e ts = some (e', r)) : modifiers? m e (ts ++ s) = some (e', r ++ s) := by
  induction n generalizing m e ts with
  | zero => cases h
  | succ n ih =>
    obtain ⟨m, rfl⟩ : ∃ k, m = k + 1 := ⟨m - 1, by omega⟩
    rw [modifiers?] at h ⊢
    cases hm : modifier? e ts with
    | none =>
      rw [hm] at h
      cases h
    | some found =>
      rw [hm] at h
      rw [modifier?_append hs hm]
      cases found with
      | none =>
        cases h
        rfl
      | some found => exact ih (by omega) h

/-! ### Aggregations -/

theorem grouping?_append (hs : StartsAnd s) {g : Option Grouping}
    (h : grouping? ts = some (g, r)) : grouping? (ts ++ s) = some (g, r ++ s) := by
  unfold grouping? at h
  split at h
  · obtain ⟨⟨ls, r'⟩, hls, ⟨⟩⟩ := Option.map_eq_some_iff.1 h
    simp only [List.cons_append, grouping?, labels?_append hls, Option.map_some]
  · obtain ⟨⟨ls, r'⟩, hls, ⟨⟩⟩ := Option.map_eq_some_iff.1 h
    simp only [List.cons_append, grouping?, labels?_append hls, Option.map_some]
  · cases h
  · cases h
  · next hby hwithout =>
    cases h
    rw [grouping?]
    all_goals
      intro _ r' hr
      obtain ⟨r₀, hr₀⟩ := hs.of_append hr fun _ => nofun
    · exact hby _ _ hr₀
    · exact hwithout _ _ hr₀
    · exact hby _ _ hr₀
    · exact hwithout _ _ hr₀

theorem laterGrouping?_append (hs : StartsAnd s) {before g : Option Grouping}
    (h : laterGrouping? before ts = some (g, r)) :
    laterGrouping? before (ts ++ s) = some (g, r ++ s) := by
  unfold laterGrouping? at h ⊢
  split at h
  · next hbefore =>
    cases h
    rw [if_pos hbefore]
  · next hbefore =>
    rw [if_neg hbefore]
    exact grouping?_append hs h

theorem aggregationHead?_append (hs : StartsAnd s) (t : Token) (ts : List Token) :
    aggregationHead? (t :: ts ++ s) =
      (aggregationHead? (t :: ts)).map fun (a, r) => (a, r ++ s) := by
  unfold aggregationHead?
  cases t with
  | keyword k text =>
    cases ts with
    | nil =>
      obtain ⟨w, t, rfl⟩ := hs
      rfl
    | cons a r =>
      cases a with
      | openParen =>
        simp only [List.cons_append]
        cases k.aggregation? <;> rfl
      | keyword k' text' =>
        simp only [List.cons_append]
        cases k' <;> first | rfl | (cases k.aggregation? <;> rfl)
      | _ => rfl
  | _ => rfl

/-! ### Expressions -/

/-- An operand that its first token does not settle: an aggregation, or a selector that starts
with its metric. -/
def headed? (fuel : Nat) (ts : List Token) : Option (Expr × List Token) :=
  match aggregationHead? ts with
  | some (a, ts) => do
    let (before, ts) ← grouping? ts
    match ts with
    | .openParen :: ts => do
      let (args, ts) ← args? fuel ts
      let (grouping, ts) ← laterGrouping? before ts
      return (← aggregation? a grouping args, ts)
    | _ => none
  | none =>
    match ts with
    | t :: ts => do selector? (← t.metric?) ts
    | [] => none

/-- With so much fuel, what a reader has left over stays in front of what is appended.  An
expression that has read everything is not disturbed if its operators all bind more
tightly than `and`. -/
structure Keeps (s : List Token) (n : Nat) : Prop where
  expr : ∀ {m level ts e r}, n ≤ m → expr? n level ts = some (e, r) → (r = [] → 2 < level) →
    expr? m level (ts ++ s) = some (e, r ++ s)
  operators : ∀ {m level left ts e r}, n ≤ m → infix? n level left ts = some (e, r) →
    (r = [] → 2 < level) → infix? m level left (ts ++ s) = some (e, r ++ s)
  signed : ∀ {m ts e r}, n ≤ m → signed? n ts = some (e, r) →
    signed? m (ts ++ s) = some (e, r ++ s)
  operand : ∀ {m ts e r}, n ≤ m → operand? n ts = some (e, r) →
    operand? m (ts ++ s) = some (e, r ++ s)
  args : ∀ {m ts es r}, n ≤ m → args? n ts = some (es, r) →
    args? m (ts ++ s) = some (es, r ++ s)
  someArgs : ∀ {m ts es r}, n ≤ m → someArgs? n ts = some (es, r) →
    someArgs? m (ts ++ s) = some (es, r ++ s)

namespace Keeps

variable {n m : Nat}

theorem nil_of_operators {level : Nat} {left e : Expr}
    (h : infix? n level left [] = some (e, r)) : left = e ∧ [] = r := by
  cases n with
  | zero => cases h
  | succ n =>
    cases h
    exact ⟨rfl, rfl⟩

theorem expr_step (k : Keeps s n) (hle : n ≤ m) {level : Nat} {e : Expr}
    (h : expr? (n + 1) level ts = some (e, r)) (hr : r = [] → 2 < level) :
    expr? (m + 1) level (ts ++ s) = some (e, r ++ s) := by
  simp only [expr?, Option.bind_eq_bind, Option.bind_eq_some_iff] at h ⊢
  obtain ⟨⟨left, ts'⟩, hleft, h⟩ := h
  exact ⟨_, k.signed hle hleft, k.operators hle h hr⟩

theorem operators_step (hs : StartsAnd s) (k : Keeps s n) (hle : n ≤ m) {level : Nat}
    {left e : Expr} (h : infix? (n + 1) level left ts = some (e, r)) (hr : r = [] → 2 < level) :
    infix? (m + 1) level left (ts ++ s) = some (e, r ++ s) := by
  cases ts with
  | nil =>
    cases h
    -- what is put behind starts with an operator of a lower level, which is left alone
    obtain ⟨w, t, rfl⟩ := hs
    have hlevel : BinaryOp.and.level < level := hr rfl
    simp only [List.nil_append, infix?, BinaryOp.ofToken?, if_pos hlevel]
  | cons t ts =>
    rw [List.cons_append]
    simp only [infix?] at h ⊢
    cases hop : BinaryOp.ofToken? t with
    | none =>
      simp only [hop] at h ⊢
      cases h
      rfl
    | some op =>
      simp only [hop] at h ⊢
      split at h
      · next hlevel =>
        cases h
        rw [if_pos hlevel]
        rfl
      · next hlevel =>
        rw [if_neg hlevel]
        simp only [Option.bind_eq_bind, Option.bind_eq_some_iff] at h ⊢
        obtain ⟨⟨matching, ts₁⟩, hmatching, ⟨right, ts₂⟩, hright, h⟩ := h
        refine ⟨_, matching?_append hs hmatching, _, k.expr hle hright ?_, k.operators hle h hr⟩
        -- if the operand ends the tokens, so does the expression
        rintro rfl
        obtain ⟨-, rfl⟩ := nil_of_operators h
        have hor := hr rfl
        unfold BinaryOp.rightLevel
        split <;> omega

theorem signed_step (hs : StartsAnd s) (k : Keeps s n) (hle : n ≤ m) {e : Expr}
    (h : signed? (n + 1) ts = some (e, r)) : signed? (m + 1) (ts ++ s) = some (e, r ++ s) := by
  have hlevel : r = [] → 2 < BinaryOp.pow.level := fun _ => by decide
  -- a sign binds as tightly as a power; without one there is an operand with its modifiers
  unfold signed? at h
  split at h
  · cases h
  · next hfuel =>
    cases hfuel
    obtain ⟨⟨e', r'⟩, he, ⟨⟩⟩ := Option.map_eq_some_iff.1 h
    simp only [List.cons_append, signed?, k.expr hle he hlevel, Option.map_some]
  · next hfuel =>
    cases hfuel
    simp only [List.cons_append, signed?, k.expr hle h hlevel]
  · next hfuel hsub hadd =>
    cases hfuel
    simp only [Option.bind_eq_bind, Option.bind_eq_some_iff] at h
    obtain ⟨⟨e', ts'⟩, he, h⟩ := h
    rw [signed?, k.operand hle he]
    · have hlength : ts'.length + 1 ≤ (ts' ++ s).length + 1 := by simp
      exact modifiers?_append hs hlength h
    · intro r' hr
      obtain ⟨r₀, hr₀⟩ := hs.of_append hr fun _ => nofun
      exact hsub _ hr₀
    · intro r' hr
      obtain ⟨r₀, hr₀⟩ := hs.of_append hr fun _ => nofun
      exact hadd _ hr₀

theorem someArgs_step (k : Keeps s n) (hle : n ≤ m) {es : List Expr}
    (h : someArgs? (n + 1) ts = some (es, r)) :
    someArgs? (m + 1) (ts ++ s) = some (es, r ++ s) := by
  simp only [someArgs?, Option.bind_eq_bind, Option.bind_eq_some_iff] at h ⊢
  obtain ⟨⟨e, ts'⟩, he, h⟩ := h
  split at h
  · next hts =>
    cases hts
    cases h
    exact ⟨_, k.expr hle he nofun, rfl⟩
  · next hts =>
    cases hts
    obtain ⟨⟨more, ts''⟩, hmore, ⟨⟩⟩ := Option.bind_eq_some_iff.1 h
    refine ⟨_, k.expr hle he nofun, ?_⟩
    simp only [List.cons_append, k.someArgs hle hmore, Option.bind_some]
    rfl
  · cases h

theorem args_step (hs : StartsAnd s) (k : Keeps s n) (hle : n ≤ m) {es : List Expr}
    (h : args? (n + 1) ts = some (es, r)) : args? (m + 1) (ts ++ s) = some (es, r ++ s) := by
  unfold args? at h
  split at h
  · cases h
  · next hfuel =>
    cases hfuel
    cases h
    rfl
  · next hfuel hclose =>
    cases hfuel
    rw [args?]
    · exact k.someArgs hle h
    · intro r' hr
      obtain ⟨r₀, hr₀⟩ := hs.of_append hr fun _ => nofun
      exact hclose _ hr₀

theorem headed_step (hs : StartsAnd s) (k : Keeps s n) (hle : n ≤ m) {t : Token} {e : Expr}
    (h : headed? n (t :: ts) = some (e, r)) :
    headed? m (t :: ts ++ s) = some (e, r ++ s) := by
  unfold headed? at h ⊢
  rw [aggregationHead?_append hs]
  cases hhead : aggregationHead? (t :: ts) with
  | none =>
    rw [hhead] at h
    simp only [Option.map_none, List.cons_append, Option.bind_eq_bind,
      Option.bind_eq_some_iff] at h ⊢
    obtain ⟨metric, hmetric, h⟩ := h
    exact ⟨metric, hmetric, selector?_append hs h⟩
  | some head =>
    obtain ⟨a, ts'⟩ := head
    rw [hhead] at h
    simp only [Option.map_some, Option.bind_eq_bind, Option.bind_eq_some_iff] at h ⊢
    obtain ⟨⟨before, ts₁⟩, hbefore, h⟩ := h
    refine ⟨_, grouping?_append hs hbefore, ?_⟩
    split at h
    · next hopen =>
      cases hopen
      obtain ⟨⟨es, ts₂⟩, hes, h⟩ := Option.bind_eq_some_iff.1 h
      obtain ⟨⟨g, ts₃⟩, hg, h⟩ := Option.bind_eq_some_iff.1 h
      obtain ⟨e', he', ⟨⟩⟩ := Option.bind_eq_some_iff.1 h
      simp only [List.cons_append, k.args hle hes, laterGrouping?_append hs hg, he',
        Option.bind_some]
      rfl
    · cases h

theorem operand_step (hs : StartsAnd s) (k : Keeps s n) (hle : n ≤ m) {e : Expr}
    (h : operand? (n + 1) ts = some (e, r)) :
    operand? (m + 1) (ts ++ s) = some (e, r ++ s) := by
  unfold operand? at h
  -- by the first token: a number, a text, a bracket, braces, a call, and what has a name
  split at h
  · cases h
  · next hfuel =>
    cases hfuel
    obtain ⟨number, hnumber, ⟨⟩⟩ := Option.map_eq_some_iff.1 h
    simp only [List.cons_append, operand?, hnumber, Option.map_some]
  · next hfuel =>
    cases hfuel
    cases h
    rfl
  · next hfuel =>
    cases hfuel
    simp only [Option.bind_eq_bind, Option.bind_eq_some_iff] at h
    obtain ⟨⟨e', ts'⟩, he, h⟩ := h
    split at h
    · next hts =>
      cases hts
      cases h
      simp only [List.cons_append, operand?, k.expr hle he nofun, Option.bind_eq_bind,
        Option.bind_some]
      rfl
    · cases h
  · next hfuel =>
    cases hfuel
    obtain ⟨⟨ms, ts'⟩, hms, ⟨⟩⟩ := Option.map_eq_some_iff.1 h
    simp only [List.cons_append, operand?, braced?_append hs hms, Option.map_some]
  · next hfuel =>
    cases hfuel
    simp only [Option.bind_eq_bind, Option.bind_eq_some_iff] at h
    obtain ⟨f, hf, ⟨es, ts'⟩, hes, ⟨⟩⟩ := h
    simp only [List.cons_append, operand?, hf, k.args hle hes, Option.bind_eq_bind,
      Option.bind_some]
    rfl
  · next ts _ _ _ hfuel hnumber hstring hparen hbrace hcall =>
    cases hfuel
    cases ts with
    | nil => cases h
    | cons t ts =>
      rw [List.cons_append, operand?]
      · exact headed_step hs k hle h
      -- no other first token has appeared
      · intro _ r' hr
        injection hr with ht
        exact hnumber _ ts (by rw [ht])
      · intro _ r' hr
        injection hr with ht
        exact hstring _ ts (by rw [ht])
      · intro r' hr
        injection hr with ht
        exact hparen ts (by rw [ht])
      · intro r' hr
        injection hr with ht
        exact hbrace ts (by rw [ht])
      · intro name r' hr
        injection hr with ht hrest
        obtain ⟨r₀, hr₀⟩ := hs.of_append hrest fun _ => nofun
        exact hcall name r₀ (by rw [ht, hr₀])

end Keeps

theorem keeps (hs : StartsAnd s) (n : Nat) : Keeps s n := by
  induction n with
  | zero => exact ⟨nofun, nofun, nofun, nofun, nofun, nofun⟩
  | succ n ih =>
    -- each reader calls the others with one unit of fuel less, on both sides
    have hfuel : ∀ {m}, n + 1 ≤ m → ∃ k, n ≤ k ∧ m = k + 1 := fun {m} hle =>
      ⟨m - 1, by omega, by omega⟩
    constructor
    · intro m level ts e r hle h hr
      obtain ⟨k, hk, rfl⟩ := hfuel hle
      exact ih.expr_step hk h hr
    · intro m level left ts e r hle h hr
      obtain ⟨k, hk, rfl⟩ := hfuel hle
      exact ih.operators_step hs hk h hr
    · intro m ts e r hle h
      obtain ⟨k, hk, rfl⟩ := hfuel hle
      exact ih.signed_step hs hk h
    · intro m ts e r hle h
      obtain ⟨k, hk, rfl⟩ := hfuel hle
      exact ih.operand_step hs hk h
    · intro m ts es r hle h
      obtain ⟨k, hk, rfl⟩ := hfuel hle
      exact ih.args_step hs hk h
    · intro m ts es r hle h
      obtain ⟨k, hk, rfl⟩ := hfuel hle
      exact ih.someArgs_step hk h

end AlertRules.Query
