/-
AlertRules/Placeholder/Brackets.lean

Placeholders have two notations, `[[ .Field ]]` and `{{ .Field }}`.  This file
turns the first into the second.  A pair `[[` is an opener only if a field
reference follows (after any minus signs, spaces and tabs there is a full stop)
and some `]]` comes after it; the first such `]]` is its closer.  Every other
bracket stays, so the ranges of a query keep theirs.
-/

namespace AlertRules.Placeholder

/-- What stands before and after the first place where `p` occurs twice in a row. -/
def breakAtPair? (p : Char) : List Char → Option (List Char × List Char)
  | a :: b :: r =>
    if a = p ∧ b = p then some ([], r)
    else (breakAtPair? p (b :: r)).map fun (before, after) => (a :: before, after)
  | _ => none

theorem breakAtPair?_eq {p : Char} {cs before after : List Char}
    (h : breakAtPair? p cs = some (before, after)) : cs = before ++ p :: p :: after := by
  induction cs generalizing before with
  | nil => simp [breakAtPair?] at h
  | cons a r ih =>
    cases r with
    | nil => simp [breakAtPair?] at h
    | cons b r =>
      rw [breakAtPair?] at h
      split at h
      · next hab =>
        obtain ⟨rfl, rfl⟩ := hab
        simp only [Option.some.injEq, Prod.mk.injEq] at h
        simp [← h.1, ← h.2]
      · obtain ⟨⟨x, y⟩, hx, hy⟩ := Option.map_eq_some_iff.1 h
        obtain ⟨rfl, rfl⟩ := Prod.mk.injEq .. ▸ hy
        rw [List.cons_append, ← ih hx]

theorem length_breakAtPair? {p : Char} {cs before after : List Char}
    (h : breakAtPair? p cs = some (before, after)) : after.length < cs.length := by
  rw [breakAtPair?_eq h]
  simp only [List.length_append, List.length_cons]
  omega

/-- Whether a field reference follows: minus signs, spaces, tabs, then a full stop. -/
def opensField (cs : List Char) : Bool :=
  (cs.dropWhile fun c => c == '-' || c == ' ' || c == '\t').head? == some '.'

/-- Every bracket placeholder in brace notation. -/
def toBraces (cs : List Char) : List Char :=
  match cs with
  | [] => []
  | a :: r =>
    match r with
    | [] => [a]
    | b :: after =>
      if a = '[' ∧ b = '[' ∧ opensField after = true then
        match _h : breakAtPair? ']' after with
        | some (inner, rest) => '{' :: '{' :: (inner ++ '}' :: '}' :: toBraces rest)
        | none => a :: toBraces (b :: after)
      else a :: toBraces (b :: after)
termination_by cs.length
decreasing_by
  all_goals simp only [List.length_cons]
  · have := length_breakAtPair? _h; omega
  · omega
  · omega

end AlertRules.Placeholder
