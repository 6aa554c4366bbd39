/-
AlertRules/Proofs/Definition/Disabled.lean

The rule of a disabled definition.  Its expression is the query that the template gives
with the clause behind it (`Rule.build_expr`), and the clause is not read before the rule
leaves (`Rule.disabled_tree`): it limits the whole query exactly if the last line ends
in no comment and the outermost operator is not `or`.  Nor is it checked that there is a query
still, as there is only if the query is a vector (`Rule.disabled_isValid_iff`).
-/
import AlertRules.Proofs.Definition.Build
import AlertRules.Proofs.Query.Disabled

namespace AlertRules

open Outcome

/-! ### Trees that the clause does not reach -/

theorem Query.Expr.ne_limited (e : Expr) : e ≠ e.limited := by
  intro h
  have hsize : sizeOf e < sizeOf e.limited := by
    rw [Expr.limited, Expr.binary.sizeOf_spec]
    omega
  rw [← h] at hsize
  exact Nat.lt_irrefl _ hsize

/-- The clause makes a limited tree of a query only if nothing keeps the clause from it. -/
theorem Query.parse?_disable_eq_limited_iff {text : String} {e : Expr}
    (h : parse? text = some e) (htype : e.type = .vector) :
    parse? (disable text) = some e.limited ↔ endsInComment text = false ∧ e.isOr = false := by
  rw [parse?_disable h htype]
  cases hcomment : endsInComment text with
  | true =>
    rw [if_pos rfl, Option.some_inj]
    exact ⟨fun heq => absurd heq e.ne_limited, fun hno => absurd hno.1 nofun⟩
  | false =>
    rw [if_neg nofun, Option.some_inj]
    constructor
    · intro heq
      refine ⟨rfl, ?_⟩
      unfold Expr.disabled at heq
      split at heq
      · cases heq
      · next hne =>
        unfold Expr.isOr
        split
        · next m l r => exact absurd rfl (hne m l r)
        · rfl
    · rintro ⟨-, hor⟩
      rw [Expr.disabled_of_not_isOr hor]

/-! ### Built rules -/

theorem Rule.resolveExpr_parse? {b : Placeholder.Bindings} {expr text : String}
    (h : Rule.resolveExpr b expr = .ok text) : ∃ e, Query.parse? text = some e := by
  exact Option.isSome_iff_exists.1 (Rule.resolveExpr_eq_ok_iff.1 h).2

/-- The expression of a built rule is what the template's expression resolves to, perhaps
with the clause. -/
theorem Rule.build_expr {template : String} {o : Overrides} {r : Rule}
    (h : Rule.build template o = .ok r) :
    ∃ draft text, Rule.decode template = .ok draft ∧
      Rule.resolveExpr (o.apply draft).bindings draft.expr = .ok text ∧
      r.expr = if o.isDisabled then Query.disable text else text := by
  obtain ⟨draft, text, hdraft, htext, -, hr⟩ := Rule.exists_draft h
  exact ⟨draft, text, hdraft, htext, congrArg Rule.expr hr⟩

/-- The rule of a disabled definition asks for the query `text` that its template resolves to,
with the clause behind it.  Where the query is a vector, the tree of the rule's expression is
that of the query if the last line of the query is in a comment, and otherwise the tree with
the clause at its last operand of `or`, or around the whole of it if it is no `or`. -/
theorem Rule.disabled_tree {template : String} {o : Overrides} {r : Rule}
    (h : Rule.build template o = .ok r) (ho : o.enabled = some false) :
    ∃ draft text e, Rule.decode template = .ok draft ∧
      Rule.resolveExpr (o.apply draft).bindings draft.expr = .ok text ∧
      r.expr = Query.disable text ∧ Query.parse? text = some e ∧
      (e.type = .vector →
        Query.parse? r.expr = some (if Query.endsInComment text then e else e.disabled) ∧
        (Query.parse? r.expr = some e.limited ↔
          Query.endsInComment text = false ∧ e.isOr = false)) := by
  obtain ⟨draft, text, hdraft, htext, hexpr⟩ := Rule.build_expr h
  obtain ⟨e, he⟩ := Rule.resolveExpr_parse? htext
  have hdisabled : o.isDisabled = true := decide_eq_true ho
  rw [if_pos hdisabled] at hexpr
  refine ⟨draft, text, e, hdraft, htext, hexpr, he, fun htype => ?_⟩
  rw [hexpr]
  exact ⟨Query.parse?_disable he htype, Query.parse?_disable_eq_limited_iff he htype⟩

/-- At `a or b` the clause limits `b` alone. -/
theorem Rule.disabled_tree_either :
    let o : Overrides := { enabled := some false }
    let r : Rule := { alert := "A", expr := "a or b and false" }
    Rule.build "alert: A\nexpr: a or b" o = .ok r ∧ o.enabled = some false ∧
      ∃ draft text e, Rule.decode "alert: A\nexpr: a or b" = .ok draft ∧
        Rule.resolveExpr (o.apply draft).bindings draft.expr = .ok text ∧
        r.expr = Query.disable text ∧ Query.parse? text = some e ∧
        (e.type = .vector →
          Query.parse? r.expr = some (if Query.endsInComment text then e else e.disabled) ∧
          (Query.parse? r.expr = some e.limited ↔
            Query.endsInComment text = false ∧ e.isOr = false)) := by
  have hbuild : Rule.build "alert: A\nexpr: a or b" { enabled := some false } =
      .ok { alert := "A", expr := "a or b and false" } := by decide +kernel
  exact ⟨hbuild, rfl, Rule.disabled_tree hbuild rfl⟩

/-- Not every disabled rule is limited as a whole: that of `a or b` is not. -/
theorem Rule.not_always_limited :
    ¬ ∀ (template : String) (o : Overrides) (r draft : Rule) (text : String) (e : Query.Expr),
      Rule.build template o = .ok r → o.enabled = some false →
      Rule.decode template = .ok draft →
      Rule.resolveExpr (o.apply draft).bindings draft.expr = .ok text →
      Query.parse? text = some e → e.type = .vector → Query.parse? r.expr = some e.limited := by
  intro hall
  have hparsed : (Query.parse? "a or b").isSome = true := by decide +kernel
  have hshape : (Query.parse? "a or b").all (fun e => e.isOr && e.type == .vector) = true := by
    decide +kernel
  obtain ⟨e, he⟩ := Option.isSome_iff_exists.1 hparsed
  rw [he, Option.all_some, Bool.and_eq_true, beq_iff_eq] at hshape
  obtain ⟨hor, htype⟩ := hshape
  have hlimited : Query.parse? (Query.disable "a or b") = some e.limited :=
    hall "alert: A\nexpr: a or b" { enabled := some false }
      { alert := "A", expr := "a or b and false" } { alert := "A", expr := "a or b" } "a or b" e
      (by decide +kernel) rfl (by decide +kernel) (by decide +kernel) he htype
  have hnot := ((Query.parse?_disable_eq_limited_iff he htype).1 hlimited).2
  rw [hor] at hnot
  cases hnot

/-- With the clause a query stays one exactly if it is a vector or hides the clause in a
comment.  A definition that is disabled gives such a text with the clause, and of whatever type
the query was, this alone decides whether the expression of its rule is a query still. -/
theorem Rule.disabled_isValid_iff {o : Overrides} (ho : o.enabled = some false) :
    (∀ text e, Query.parse? text = some e →
      (Query.isValid (Query.disable text) = true ↔
        Query.endsInComment text = true ∨ e.type = .vector)) ∧
    ∀ template r, Rule.build template o = .ok r →
      ∃ draft text e, Rule.decode template = .ok draft ∧
        Rule.resolveExpr (o.apply draft).bindings draft.expr = .ok text ∧
        r.expr = Query.disable text ∧ Query.parse? text = some e ∧
        (Query.isValid r.expr = true ↔
          Query.endsInComment text = true ∨ e.type = .vector) := by
  refine ⟨fun _ _ he => Query.isValid_disable_iff he, ?_⟩
  intro template r h
  obtain ⟨draft, text, hdraft, htext, hexpr⟩ := Rule.build_expr h
  obtain ⟨e, he⟩ := Rule.resolveExpr_parse? htext
  have hdisabled : o.isDisabled = true := decide_eq_true ho
  rw [if_pos hdisabled] at hexpr
  refine ⟨draft, text, e, hdraft, htext, hexpr, he, ?_⟩
  rw [hexpr]
  exact Query.isValid_disable_iff he

/-- Where the expression is a range, the definition is built but its rule has no query. -/
theorem Rule.disabled_isValid_range :
    let o : Overrides := { enabled := some false }
    let r : Rule := { alert := "A", expr := "x[5m] and false" }
    o.enabled = some false ∧ Rule.build "alert: A\nexpr: x[5m]" o = .ok r ∧
      Query.isValid "x[5m]" = true ∧ ¬ Query.isValid r.expr = true := by
  have hbuild : Rule.build "alert: A\nexpr: x[5m]" { enabled := some false } =
      .ok { alert := "A", expr := "x[5m] and false" } := by decide +kernel
  have hparsed : (Query.parse? "x[5m]").isSome = true := by decide +kernel
  have htype : (Query.parse? "x[5m]").all (fun e => e.type == .matrix) = true := by
    decide +kernel
  obtain ⟨e, he⟩ := Option.isSome_iff_exists.1 hparsed
  rw [he, Option.all_some, beq_iff_eq] at htype
  have ho : ({ enabled := some false } : Overrides).enabled = some false := rfl
  refine ⟨ho, hbuild, hparsed, fun hvalid => ?_⟩
  rcases ((Rule.disabled_isValid_iff ho).1 "x[5m]" e he).1 hvalid with hcomment | hvector
  · exact absurd hcomment (by decide +kernel)
  · rw [htype] at hvector
    cases hvector

/-- Not every disabled rule has a query: that of the scalar `1` has none. -/
theorem Rule.not_always_valid :
    ¬ ∀ (template : String) (o : Overrides) (r : Rule),
      Rule.build template o = .ok r → o.enabled = some false → Query.isValid r.expr = true := by
  intro hall
  have hbuild : Rule.build "alert: A\nexpr: 1" { enabled := some false } =
      .ok { alert := "A", expr := "1 and false" } := by decide +kernel
  have hvalid : Query.isValid "1 and false" = true := hall _ _ _ hbuild rfl
  have hinvalid : Query.isValid "1 and false" = false := by decide +kernel
  exact Bool.false_ne_true (hinvalid.symm.trans hvalid)

end AlertRules
