/-
AlertRules/Proofs/Query/Disabled.lean

What a disabled query means.  The clause that `disable` appends is read with the query in
front of it, so what it limits is decided by the grammar: the whole query, unless its
outermost operator is `or`, the one that binds less tightly than `and`, of which it limits the
last operand (`Expr.disabled`).

Behind all tokens of a query the clause has this effect by induction on the fuel of the
reader (`Disables`): the last operand is an expression of the same kind, and every other one
is left as it is by what is appended (`Keeps`).  If the text ends in a comment, the clause is a
part of it and has no effect (`parse?_disable`).

The clause is read as an operand of `and`, which only vectors are: of a query of any other type
it makes a text that is no query (`isValid_disable_iff`).
-/
import AlertRules.Proofs.Query.Grammar
import AlertRules.Proofs.Query.Token
import AlertRules.Query

namespace AlertRules.Query

/-! ### Trees -/

/-- The selector of the series `false`. -/
def falseSeries : Expr := .selector ⟨some "false".toList, []⟩ {}

/-- An expression of which only samples with a match in the series `false` are left. -/
def Expr.limited (e : Expr) : Expr := .binary .and {} e falseSeries

def Expr.isOr : Expr → Bool
  | .binary .or _ _ _ => true
  | _ => false

/-- The tree that the clause makes of a tree: where the outermost operator is `or`, which
binds less tightly than `and`, only its right operand is limited. -/
def Expr.disabled : Expr → Expr
  | .binary .or m l r => .binary .or m l r.limited
  | e => e.limited

theorem Expr.disabled_of_not_isOr {e : Expr} (h : e.isOr = false) : e.disabled = e.limited := by
  unfold isOr at h
  split at h
  · cases h
  · next hne =>
    rw [disabled]
    exact hne

/-! ### No `or` on the outside -/

section Shape

variable {n : Nat} {ts r : List Token} {e e' : Expr}

theorem isOr_of_range? {k : Nat} (h : e.range? k = some e') : e'.isOr = false := by
  unfold Expr.range? at h
  split at h <;> cases h
  rfl

theorem isOr_of_bracketed? (h : bracketed? e ts = some (e', r)) : e'.isOr = false := by
  unfold bracketed? at h
  split at h
  · simp only [Option.bind_eq_bind, Option.bind_eq_some_iff] at h
    obtain ⟨_, _, a, ha, ⟨⟩⟩ := h
    exact isOr_of_range? ha
  · simp only [Option.bind_eq_bind, Option.bind_eq_some_iff] at h
    obtain ⟨_, _, ⟨⟩⟩ := h
    rfl
  · simp only [Option.bind_eq_bind, Option.bind_eq_some_iff] at h
    obtain ⟨_, _, _, _, ⟨⟩⟩ := h
    rfl
  · cases h

theorem isOr_of_modifier? (h : modifier? e ts = some (some (e', r))) : e'.isOr = false := by
  have hoffset : ∀ {k a}, e.offset? k = some a → a.isOr = false := by
    intro k a ha
    unfold Expr.offset? at ha
    split at ha <;> cases ha <;> rfl
  have hat : ∀ {k a}, e.at? k = some a → a.isOr = false := by
    intro k a ha
    unfold Expr.at? at ha
    split at ha <;> cases ha <;> rfl
  unfold modifier? at h
  split at h
  · simp only [Option.bind_eq_bind, Option.bind_eq_some_iff] at h
    obtain ⟨_, _, a, ha, ⟨⟩⟩ := h
    exact hoffset ha
  · simp only [Option.bind_eq_bind, Option.bind_eq_some_iff] at h
    obtain ⟨_, _, a, ha, ⟨⟩⟩ := h
    exact hat ha
  · obtain ⟨⟨a, r'⟩, ha, ⟨⟩⟩ := Option.map_eq_some_iff.1 h
    exact isOr_of_bracketed? ha
  · cases h

theorem isOr_of_modifiers? (he : e.isOr = false) (h : modifiers? n e ts = some (e', r)) :
    e'.isOr = false := by
  induction n generalizing e ts with
  | zero => cases h
  | succ n ih =>
    rw [modifiers?] at h
    split at h
    · cases h
    · cases h
      exact he
    · next hm => exact ih (isOr_of_modifier? hm) h

theorem isOr_of_aggregation? {a : Aggregation} {g : Option Grouping} {es : List Expr}
    (h : aggregation? a g es = some e) : e.isOr = false := by
  unfold aggregation? at h
  split at h
  · split at h <;> cases h
    rfl
  · split at h <;> cases h
    rfl
  · cases h

theorem isOr_of_selector? {metric : List Char} (h : selector? metric ts = some (e, r)) :
    e.isOr = false := by
  unfold selector? at h
  split at h
  · obtain ⟨_, _, ⟨⟩⟩ := Option.map_eq_some_iff.1 h
    rfl
  · cases h
    rfl

theorem isOr_of_headed? (h : headed? n ts = some (e, r)) : e.isOr = false := by
  unfold headed? at h
  split at h
  · simp only [Option.bind_eq_bind, Option.bind_eq_some_iff] at h
    obtain ⟨_, _, h⟩ := h
    split at h
    · simp only [Option.bind_eq_some_iff] at h
      obtain ⟨_, _, _, _, a, ha, ⟨⟩⟩ := h
      exact isOr_of_aggregation? ha
    · cases h
  · split at h
    · simp only [Option.bind_eq_bind, Option.bind_eq_some_iff] at h
      obtain ⟨_, _, h⟩ := h
      exact isOr_of_selector? h
    · cases h

theorem isOr_of_operand? (h : operand? n ts = some (e, r)) : e.isOr = false := by
  unfold operand? at h
  split at h
  · cases h
  · obtain ⟨_, _, ⟨⟩⟩ := Option.map_eq_some_iff.1 h
    rfl
  · cases h
    rfl
  · simp only [Option.bind_eq_bind, Option.bind_eq_some_iff] at h
    obtain ⟨_, _, h⟩ := h
    split at h <;> cases h
    rfl
  · obtain ⟨_, _, ⟨⟩⟩ := Option.map_eq_some_iff.1 h
    rfl
  · simp only [Option.bind_eq_bind, Option.bind_eq_some_iff] at h
    obtain ⟨_, _, _, _, ⟨⟩⟩ := h
    rfl
  · exact isOr_of_headed? h

theorem Expr.isOr_neg (e : Expr) : e.neg.isOr = false := by
  cases e <;> rfl

/-- With so much fuel, an expression whose operators all bind more tightly than `or` is no `or`
itself. -/
structure Tight (n : Nat) : Prop where
  expr : ∀ {level ts e r}, 2 ≤ level → expr? n level ts = some (e, r) → e.isOr = false
  operators : ∀ {level left ts e r}, 2 ≤ level → left.isOr = false →
    infix? n level left ts = some (e, r) → e.isOr = false
  signed : ∀ {ts e r}, signed? n ts = some (e, r) → e.isOr = false

namespace Tight

variable {level : Nat}

theorem expr_step (t : Tight n) (hlevel : 2 ≤ level) (h : expr? (n + 1) level ts = some (e, r)) :
    e.isOr = false := by
  simp only [expr?, Option.bind_eq_bind, Option.bind_eq_some_iff] at h
  obtain ⟨⟨left, ts'⟩, hleft, h⟩ := h
  exact t.operators hlevel (t.signed hleft) h

theorem operators_step (t : Tight n) (hlevel : 2 ≤ level) {left : Expr}
    (hleft : left.isOr = false) (h : infix? (n + 1) level left ts = some (e, r)) :
    e.isOr = false := by
  unfold infix? at h
  split at h
  · cases h
  · cases h
    exact hleft
  · next hfuel =>
    cases hfuel
    split at h
    · cases h
      exact hleft
    · next op hop =>
      split at h
      · cases h
        exact hleft
      · next hop' =>
        simp only [Option.bind_eq_bind, Option.bind_eq_some_iff] at h
        obtain ⟨_, _, _, _, h⟩ := h
        refine t.operators hlevel ?_ h
        -- the operator `or` has a lower level than asked for
        cases op with
        | or =>
          have hor : 2 ≤ BinaryOp.or.level := Nat.le_trans hlevel (Nat.not_lt.1 hop')
          exact absurd hor (by decide)
        | _ => rfl

theorem signed_step (t : Tight n) (h : signed? (n + 1) ts = some (e, r)) : e.isOr = false := by
  unfold signed? at h
  split at h
  · cases h
  · next hfuel =>
    cases hfuel
    obtain ⟨⟨e', r'⟩, _, ⟨⟩⟩ := Option.map_eq_some_iff.1 h
    exact e'.isOr_neg
  · next hfuel =>
    cases hfuel
    exact t.expr (by decide) h
  · next hfuel _ _ =>
    cases hfuel
    simp only [Option.bind_eq_bind, Option.bind_eq_some_iff] at h
    obtain ⟨_, hoperand, h⟩ := h
    exact isOr_of_modifiers? (isOr_of_operand? hoperand) h

end Tight

theorem tight (n : Nat) : Tight n := by
  induction n with
  | zero => exact ⟨nofun, nofun, nofun⟩
  | succ n ih => exact
    ⟨ih.expr_step, fun hlevel hleft h => ih.operators_step hlevel hleft h, ih.signed_step⟩

end Shape

/-! ### The clause behind an expression -/

/-- The tokens of the clause that a disabled query ends in. -/
def clauseTokens : List Token := [.keyword .andOp "and".toList, .name "false".toList]

theorem startsAnd_clauseTokens : StartsAnd clauseTokens := ⟨_, _, rfl⟩

/-- Behind a left operand alone the clause limits it. -/
theorem operators_clause {m level : Nat} (hm : 4 ≤ m) (hlevel : level ≤ 2) (left : Expr) :
    infix? m level left clauseTokens = some (left.limited, []) := by
  obtain ⟨k, rfl⟩ : ∃ k, m = k + 4 := ⟨m - 4, by omega⟩
  have hright : expr? (k + 3) BinaryOp.and.rightLevel [.name "false".toList] =
      some (falseSeries, []) := rfl
  have hand : ¬ BinaryOp.and.level < level := Nat.not_lt.2 hlevel
  simp only [clauseTokens, infix?, BinaryOp.ofToken?, if_neg hand, Option.bind_eq_bind]
  rw [show matching? [.name "false".toList] = some ({}, [.name "false".toList]) from rfl]
  simp only [Option.bind_some, hright]
  rfl

/-- With so much fuel, what a reader reads to the end of the tokens becomes, with the clause
behind it, what it is disabled. -/
structure Disables (n : Nat) : Prop where
  expr : ∀ {m level ts e}, n + 4 ≤ m → level ≤ 2 → expr? n level ts = some (e, []) →
    expr? m level (ts ++ clauseTokens) = some (e.disabled, [])
  operators : ∀ {m level left ts e}, n + 4 ≤ m → level ≤ 2 → (left.isOr = true → ts ≠ []) →
    infix? n level left ts = some (e, []) →
    infix? m level left (ts ++ clauseTokens) = some (e.disabled, [])

namespace Disables

variable {n m level : Nat} {left e : Expr} {ts : List Token}

theorem expr_step (d : Disables n) (hm : n + 4 ≤ m) (hlevel : level ≤ 2)
    (h : expr? (n + 1) level ts = some (e, [])) :
    expr? (m + 1) level (ts ++ clauseTokens) = some (e.disabled, []) := by
  simp only [expr?, Option.bind_eq_bind, Option.bind_eq_some_iff] at h ⊢
  obtain ⟨⟨left, ts'⟩, hleft, h⟩ := h
  have hor : left.isOr = false := (tight n).signed hleft
  have hsigned := (keeps startsAnd_clauseTokens n).signed (Nat.le_of_add_right_le hm) hleft
  exact ⟨_, hsigned, d.operators hm hlevel (fun h => absurd h (Bool.eq_false_iff.1 hor)) h⟩

theorem operators_step (d : Disables n) (hm : n + 4 ≤ m) (hlevel : level ≤ 2)
    (hleft : left.isOr = true → ts ≠ []) (h : infix? (n + 1) level left ts = some (e, [])) :
    infix? (m + 1) level left (ts ++ clauseTokens) = some (e.disabled, []) := by
  have hk : Keeps clauseTokens n := keeps startsAnd_clauseTokens n
  cases ts with
  | nil =>
    cases h
    -- nothing is left of the query, so the clause limits all that has been read
    have hor : left.isOr = false := Bool.eq_false_iff.2 fun h => hleft h rfl
    rw [List.nil_append, operators_clause (by omega) hlevel, Expr.disabled_of_not_isOr hor]
  | cons t ts =>
    rw [List.cons_append]
    simp only [infix?] at h ⊢
    cases hop : BinaryOp.ofToken? t with
    | none =>
      simp only [hop] at h
      cases h
    | some op =>
      simp only [hop] at h ⊢
      split at h
      · cases h
      · next hopLevel =>
        rw [if_neg hopLevel]
        simp only [Option.bind_eq_bind, Option.bind_eq_some_iff] at h ⊢
        obtain ⟨⟨matching, ts₁⟩, hmatching, ⟨right, ts₂⟩, hright, h⟩ := h
        refine ⟨_, matching?_append startsAnd_clauseTokens hmatching, ?_⟩
        by_cases hlast : op = .or ∧ ts₂ = []
        · -- the clause goes to the last operand of `or`
          obtain ⟨rfl, rfl⟩ := hlast
          obtain ⟨rfl, -⟩ := Keeps.nil_of_operators h
          have hor : right.isOr = false := (tight n).expr (by decide) hright
          refine ⟨_, d.expr hm (by decide) hright, ?_⟩
          obtain ⟨k, rfl⟩ : ∃ k, m = k + 1 := ⟨m - 1, by omega⟩
          rw [Expr.disabled_of_not_isOr hor]
          rfl
        · -- every other operand stays as it is
          have hends : ts₂ = [] → 2 < op.rightLevel := by
            rintro rfl
            have hne : op ≠ .or := fun h => hlast ⟨h, rfl⟩
            cases op with
            | or => exact absurd rfl hne
            | _ => decide
          refine ⟨_, hk.expr (Nat.le_of_add_right_le hm) hright hends, ?_⟩
          refine d.operators hm hlevel ?_ h
          rintro hor rfl
          cases op with
          | or => exact hlast ⟨rfl, rfl⟩
          | _ => cases hor

end Disables

theorem disables (n : Nat) : Disables n := by
  induction n with
  | zero => exact ⟨nofun, nofun⟩
  | succ n ih =>
    have hfuel : ∀ {m}, n + 1 + 4 ≤ m → ∃ k, n + 4 ≤ k ∧ m = k + 1 := fun {m} hle =>
      ⟨m - 1, by omega, by omega⟩
    constructor
    · intro m level ts e hm hlevel h
      obtain ⟨k, hk, rfl⟩ := hfuel hm
      exact ih.expr_step hk hlevel h
    · intro m level left ts e hm hlevel hleft h
      obtain ⟨k, hk, rfl⟩ := hfuel hm
      exact ih.operators_step hk hlevel hleft h

/-- Behind all tokens of a query the clause gives the tree of the disabled query. -/
theorem ofTokens?_append_clause {ts : List Token} {e : Expr} (h : Expr.ofTokens? ts = some e) :
    Expr.ofTokens? (ts ++ clauseTokens) = some e.disabled := by
  have hread : expr? (6 * ts.length + 6) 0 ts = some (e, []) := by
    unfold Expr.ofTokens? at h
    split at h
    · next hread =>
      cases h
      exact hread
    · cases h
  have hfuel : 6 * ts.length + 6 + 4 ≤ 6 * (ts ++ clauseTokens).length + 6 := by
    rw [List.length_append, clauseTokens, List.length_cons, List.length_singleton]
    omega
  rw [Expr.ofTokens?, (disables _).expr hfuel (Nat.zero_le _) hread]

/-! ### Types -/

/-- The operands of a set operator are vectors. -/
theorem BinaryOp.vectors_of_accepts {op : BinaryOp} (hop : op.isSet = true) {m : Matching}
    {l r : ValueType} (h : op.accepts m l r = true) : l = .vector ∧ r = .vector := by
  simp only [accepts, hop, Bool.and_eq_true, Bool.or_eq_true, Bool.not_true, Bool.false_eq_true,
    false_or, beq_iff_eq] at h
  obtain ⟨⟨⟨-, ⟨hl, hr⟩, -⟩, -⟩, -⟩ := h
  exact ⟨hl, hr⟩

theorem Expr.type_limited (e : Expr) : e.limited.type = .vector := by
  have hseries : ¬ (e.type = .scalar ∧ falseSeries.type = .scalar) := fun h => nomatch h.2
  rw [limited, type, if_neg hseries]

/-- Only a vector can be limited. -/
theorem Expr.isWellTyped_limited_iff {e : Expr} (he : e.isWellTyped = true) :
    e.limited.isWellTyped = true ↔ e.type = .vector := by
  have hseries : falseSeries.isWellTyped = true := rfl
  rw [limited, isWellTyped, he, hseries, Bool.true_and, Bool.true_and]
  constructor
  · exact fun haccepts => (BinaryOp.vectors_of_accepts rfl haccepts).1
  · intro htype
    rw [htype]
    rfl

/-- A query keeps the rules on types behind the clause exactly if it is a vector, wherever the
clause ends up: what the clause limits of an `or` is a vector, and so is the `or`. -/
theorem Expr.isWellTyped_disabled_iff {e : Expr} (he : e.isWellTyped = true) :
    e.disabled.isWellTyped = true ↔ e.type = .vector := by
  unfold disabled
  split
  · next m l r =>
    simp only [isWellTyped, Bool.and_eq_true] at he ⊢
    obtain ⟨⟨hl, hr⟩, haccepts⟩ := he
    obtain ⟨hlType, hrType⟩ := BinaryOp.vectors_of_accepts rfl haccepts
    have hscalars : ¬ (l.type = .scalar ∧ r.type = .scalar) := fun h =>
      nomatch hlType.symm.trans h.1
    rw [type, if_neg hscalars, type_limited, ← hrType]
    exact iff_of_true ⟨⟨hl, (isWellTyped_limited_iff hr).2 hrType⟩, haccepts⟩ rfl
  · exact isWellTyped_limited_iff he

/-! ### Disabled texts -/

/-- The last line of a query ends in a comment. -/
def endsInComment (text : String) : Bool := commentAtEnd .outside text.toList

theorem scan_disable {text : String} {ts : List Token} (h : Token.scan text = some ts) :
    Token.scan (disable text) =
      some (if endsInComment text then ts else ts ++ clauseTokens) := by
  have htext : (disable text).toList = text.toList ++ ' ' :: "and false".toList := by
    rw [disable, String.toList_append]
    rfl
  have hclause : scanFrom .outside (' ' :: "and false".toList) = some clauseTokens := by
    decide +kernel
  have hline : (' ' :: "and false".toList).any isLineEnd = false := by decide
  rw [Token.scan, htext]
  split
  · next hopen =>
    exact scanFrom_append_comment h hopen fun c hc =>
      Bool.eq_false_iff.2 (List.any_eq_false.1 hline c hc)
  · next hopen => exact scanFrom_append h (Bool.eq_false_iff.2 hopen) hclause

theorem parse?_eq_some_iff {text : String} {e : Expr} :
    parse? text = some e ↔
      ∃ ts, Token.scan text = some ts ∧ Expr.ofTokens? ts = some e ∧ e.isWellTyped = true := by
  simp only [parse?, Option.bind_eq_bind, Option.bind_eq_some_iff]
  constructor
  · rintro ⟨ts, hts, e', he', htyped⟩
    split at htyped
    · next hwell =>
      cases htyped
      exact ⟨ts, hts, he', hwell⟩
    · cases htyped
  · rintro ⟨ts, hts, he, hwell⟩
    exact ⟨ts, hts, e, he, if_pos hwell⟩

/-- What is read of a disabled query: the query itself if its last line is in a comment, and
otherwise its tree with the clause, if that keeps the rules on types. -/
theorem parse?_disable_eq {text : String} {e : Expr} (h : parse? text = some e) :
    parse? (disable text) =
      if endsInComment text then some e
      else if e.disabled.isWellTyped then some e.disabled else none := by
  obtain ⟨ts, hts, he, hwell⟩ := parse?_eq_some_iff.1 h
  rw [parse?, Option.bind_eq_bind, scan_disable hts, Option.bind_some]
  split
  · rw [he, Option.bind_eq_bind, Option.bind_some, if_pos hwell]
  · rw [ofTokens?_append_clause he, Option.bind_eq_bind, Option.bind_some]

/-- The tree of a query that is disabled. -/
theorem parse?_disable {text : String} {e : Expr} (h : parse? text = some e)
    (htype : e.type = .vector) :
    parse? (disable text) = some (if endsInComment text then e else e.disabled) := by
  obtain ⟨_, _, _, hquery⟩ := parse?_eq_some_iff.1 h
  have hwell : e.disabled.isWellTyped = true :=
    (Expr.isWellTyped_disabled_iff hquery).2 htype
  rw [parse?_disable_eq h, if_pos hwell]
  split <;> rfl

/-- The text of a disabled query is a query exactly if the query is a vector or hides the
clause in a comment. -/
theorem isValid_disable_iff {text : String} {e : Expr} (h : parse? text = some e) :
    isValid (disable text) = true ↔ endsInComment text = true ∨ e.type = .vector := by
  obtain ⟨_, _, _, hquery⟩ := parse?_eq_some_iff.1 h
  rw [isValid, parse?_disable_eq h]
  split
  · next hcomment => exact iff_of_true rfl (.inl hcomment)
  · next hcomment =>
    rw [or_iff_right hcomment, ← Expr.isWellTyped_disabled_iff hquery]
    split
    · next hwell => exact iff_of_true rfl hwell
    · next hill => exact iff_of_false nofun hill

end AlertRules.Query
