/-
AlertRules/Query/Grammar.lean

From tokens to the syntax tree.  Binary operators are read by level: `infix`
collects, behind a left operand, the operators that bind at least as tightly as
asked.  A sign takes an operand at the level of the power, so `-x ^ 2` is
`-(x ^ 2)`; selectors take their modifiers first of all.

Every call of the mutual block has one unit of fuel less than its caller, and
at most five calls follow each other before a token is consumed, so six units a
token are enough for every query.
-/
import AlertRules.Query.Expr

namespace AlertRules.Query

/-! ### Labels and matchers -/

/-- The keywords that may also name a metric. -/
def Keyword.namesSeries : Keyword → Bool
  | on | ignoring | bool | atan2 | groupLeft | groupRight => false
  | _ => true

/-- The metric that a token names. -/
def Token.metric? : Token → Option (List Char)
  | .name t | .series t => some t
  | .keyword k t => if k.namesSeries then some t else none
  | _ => none

/-- The label that a token names. -/
def Token.label? : Token → Option (List Char)
  | .name t | .keyword _ t => some t
  | _ => none

/-- Labels up to a closing parenthesis, with commas between them and perhaps
after the last. -/
def labels? : List Token → Option (List (List Char) × List Token)
  | .closeParen :: r => some ([], r)
  | t :: .comma :: r => do
    let label ← t.label?
    let (more, r) ← labels? r
    return (label :: more, r)
  | t :: .closeParen :: r => t.label?.map fun label => ([label], r)
  | _ => none

def Token.matchOp? : Token → Option MatchOp
  | .assign => some .equal
  | .neq => some .notEqual
  | .like => some .like
  | .unlike => some .unlike
  | _ => none

/-- At least one matcher, up to a closing brace. -/
def matchers? : List Token → Option (List Matcher × List Token)
  | .name label :: op :: .string value :: .closeBrace :: r =>
    op.matchOp?.map fun op => ([⟨label, op, value⟩], r)
  | .name label :: op :: .string value :: .comma :: .closeBrace :: r =>
    op.matchOp?.map fun op => ([⟨label, op, value⟩], r)
  | .name label :: op :: .string value :: .comma :: r => do
    let op ← op.matchOp?
    let (more, r) ← matchers? r
    return (⟨label, op, value⟩ :: more, r)
  | .name label :: op :: .string value :: .keyword .orOp _ :: r => do
    let op ← op.matchOp?
    let (more, r) ← matchers? r
    return (⟨label, op, value⟩ :: more, r)
  | _ => none

/-- Matchers, perhaps none, after an opening brace. -/
def braced? : List Token → Option (List Matcher × List Token)
  | .closeBrace :: r => some ([], r)
  | ts => matchers? ts

/-- The selector of a metric that was read already. -/
def selector? (metric : List Char) : List Token → Option (Expr × List Token)
  | .openBrace :: r =>
    (braced? r).map fun (matchers, r) => (.selector ⟨some metric, matchers⟩ {}, r)
  | ts => some (.selector ⟨some metric, []⟩ {}, ts)

/-! ### Operators -/

def BinaryOp.ofToken? : Token → Option BinaryOp
  | .keyword .orOp _ => some or
  | .keyword .andOp _ => some and
  | .keyword .unlessOp _ => some unlessOp
  | .keyword .atan2 _ => some atan2
  | .eql => some eql
  | .neq => some neq
  | .lss => some lss
  | .lte => some lte
  | .gtr => some gtr
  | .gte => some gte
  | .add => some add
  | .sub => some sub
  | .mul => some mul
  | .div => some div
  | .mod => some mod
  | .pow => some pow
  | _ => none

/-- The labels that may stand in parentheses after `group_left` or `group_right`. -/
def group? : List Token → Option (Option (List (List Char)) × List Token)
  | .keyword .groupLeft _ :: .openParen :: r
  | .keyword .groupRight _ :: .openParen :: r =>
    (labels? r).map fun (labels, r) => (some labels, r)
  | .keyword .groupLeft _ :: r | .keyword .groupRight _ :: r => some (some [], r)
  | ts => some (none, ts)

def pairing? : List Token → Option (Option Pairing × List Token)
  | .keyword .on _ :: .openParen :: r => (labels? r).map fun (ls, r) => (some (.on ls), r)
  | .keyword .ignoring _ :: .openParen :: r =>
    (labels? r).map fun (ls, r) => (some (.ignoring ls), r)
  | .keyword .on _ :: _ | .keyword .ignoring _ :: _ => none
  | ts => some (none, ts)

/-- The labels that an operator pairs by, and those that it adds. -/
def paired? (asBool : Bool) (ts : List Token) : Option (Matching × List Token) := do
  let (pairing, ts) ← pairing? ts
  match pairing with
  | none => return ({ asBool := asBool }, ts)
  | some pairing =>
    let (group, ts) ← group? ts
    return (⟨asBool, some pairing, group⟩, ts)

/-- What stands between an operator and its right operand. -/
def matching? : List Token → Option (Matching × List Token)
  | .keyword .bool _ :: r => paired? true r
  | ts => paired? false ts

/-! ### Modifiers -/

/-- The moment after `@`; the time must be finite. -/
def moment? : List Token → Option (Moment × List Token)
  | .number t :: r => finite? (Number.read? t) r
  | .add :: .number t :: r => finite? (Number.read? t) r
  | .sub :: .number t :: r => finite? ((Number.read? t).map Number.neg) r
  | .keyword .start _ :: .openParen :: .closeParen :: r => some (.start, r)
  | .keyword .stop _ :: .openParen :: .closeParen :: r => some (.stop, r)
  | _ => none
where
  finite? (n : Option Number) (r : List Token) : Option (Moment × List Token) :=
    (n.filter Number.isFinite).map fun n => (.time n, r)

/-- The duration after `offset`, which may have a sign. -/
def shift? : List Token → Option (Int × List Token)
  | .duration d :: r | .add :: .duration d :: r => (readDuration? d).map fun ms => ((ms : Int), r)
  | .sub :: .duration d :: r => (readDuration? d).map fun ms => (-(ms : Int), r)
  | _ => none

/-- A range or a subquery behind an opening bracket. -/
def bracketed? (e : Expr) : List Token → Option (Expr × List Token)
  | .duration d :: .closeBracket :: r => do
    return (← e.range? (← readDuration? d), r)
  | .duration d :: .colon :: .closeBracket :: r => do
    return (.subquery e (← readDuration? d) none {}, r)
  | .duration d :: .colon :: .duration s :: .closeBracket :: r => do
    return (.subquery e (← readDuration? d) (some (← readDuration? s)) {}, r)
  | _ => none

/-- One modifier, if there is one; the outer option is refusal. -/
def modifier? (e : Expr) : List Token → Option (Option (Expr × List Token))
  | .keyword .offset _ :: r => do
    let (ms, r) ← shift? r
    return some (← e.offset? ms, r)
  | .atSign :: r => do
    let (m, r) ← moment? r
    return some (← e.at? m, r)
  | .openBracket :: r => (bracketed? e r).map some
  | _ => some none

/-- All modifiers behind an operand. -/
def modifiers? : Nat → Expr → List Token → Option (Expr × List Token)
  | 0, _, _ => none
  | fuel + 1, e, ts =>
    match modifier? e ts with
    | none => none
    | some none => some (e, ts)
    | some (some (e, ts)) => modifiers? fuel e ts

/-! ### Aggregations -/

def Keyword.aggregation? : Keyword → Option Aggregation
  | sum => some .sum
  | avg => some .avg
  | count => some .count
  | min => some .min
  | max => some .max
  | group => some .group
  | stddev => some .stddev
  | stdvar => some .stdvar
  | topk => some .topk
  | bottomk => some .bottomk
  | countValues => some .countValues
  | quantile => some .quantile
  | _ => none

/-- `by` or `without` with their labels, if one of them comes next. -/
def grouping? : List Token → Option (Option Grouping × List Token)
  | .keyword .byLabels _ :: .openParen :: r =>
    (labels? r).map fun (ls, r) => (some (.keep ls), r)
  | .keyword .without _ :: .openParen :: r =>
    (labels? r).map fun (ls, r) => (some (.drop ls), r)
  | .keyword .byLabels _ :: _ | .keyword .without _ :: _ => none
  | ts => some (none, ts)

/-- The grouping behind the arguments of an aggregation, unless one stands before them. -/
def laterGrouping? (before : Option Grouping) (ts : List Token) :
    Option (Option Grouping × List Token) :=
  if before.isSome then some (before, ts) else grouping? ts

/-- An aggregation of its arguments, of which it takes one, or two with a parameter. -/
def aggregation? (a : Aggregation) (grouping : Option Grouping) : List Expr → Option Expr
  | [body] => if a.param?.isNone then some (.aggregate a grouping none body) else none
  | [param, body] =>
    if a.param?.isSome then some (.aggregate a grouping (some param) body) else none
  | _ => none

/-- The aggregation that a word starts; elsewhere the word names a metric. -/
def aggregationHead? : List Token → Option (Aggregation × List Token)
  | .keyword k _ :: r =>
    match r with
    | .openParen :: _ | .keyword .byLabels _ :: _ | .keyword .without _ :: _ =>
      k.aggregation?.map fun a => (a, r)
    | _ => none
  | _ => none

/-! ### Expressions -/

mutual

/-- An expression whose operators outside brackets all have the given level or more. -/
def expr? : Nat → Nat → List Token → Option (Expr × List Token)
  | 0, _, _ => none
  | fuel + 1, level, ts => do
    let (left, ts) ← signed? fuel ts
    infix? fuel level left ts

/-- The operators of the given level or more behind a left operand. -/
def infix? : Nat → Nat → Expr → List Token → Option (Expr × List Token)
  | 0, _, _, _ => none
  | _ + 1, _, left, [] => some (left, [])
  | fuel + 1, level, left, t :: ts =>
    match BinaryOp.ofToken? t with
    | none => some (left, t :: ts)
    | some op =>
      if op.level < level then some (left, t :: ts)
      else do
        let (matching, ts) ← matching? ts
        let (right, ts) ← expr? fuel op.rightLevel ts
        infix? fuel level (.binary op matching left right) ts

/-- An operand with a sign or without; a plus sign changes nothing. -/
def signed? : Nat → List Token → Option (Expr × List Token)
  | 0, _ => none
  | fuel + 1, .sub :: ts => (expr? fuel BinaryOp.pow.level ts).map fun (e, ts) => (e.neg, ts)
  | fuel + 1, .add :: ts => expr? fuel BinaryOp.pow.level ts
  | fuel + 1, ts => do
    let (e, ts) ← operand? fuel ts
    modifiers? (ts.length + 1) e ts

/-- A literal, a parenthesis, a selector, a call or an aggregation. -/
def operand? : Nat → List Token → Option (Expr × List Token)
  | 0, _ => none
  | _ + 1, .number t :: ts => (Number.read? t).map fun n => (.number n, ts)
  | _ + 1, .string t :: ts => some (.string t, ts)
  | fuel + 1, .openParen :: ts => do
    match ← expr? fuel 0 ts with
    | (e, .closeParen :: ts) => return (.paren e, ts)
    | _ => none
  | _ + 1, .openBrace :: ts =>
    (braced? ts).map fun (matchers, ts) => (.selector ⟨none, matchers⟩ {}, ts)
  | fuel + 1, .name n :: .openParen :: ts => do
    let f ← Function.ofName? n
    let (args, ts) ← args? fuel ts
    return (.call f args, ts)
  | fuel + 1, ts =>
    match aggregationHead? ts with
    | some (a, ts) => do
      let (before, ts) ← grouping? ts
      match ts with
      | .openParen :: ts => do
        let (args, ts) ← args? fuel ts
        let (grouping, ts) ← laterGrouping? before ts
        return (← aggregation? a grouping args, ts)
      | _ => none
    | none =>
      match ts with
      | t :: ts => do selector? (← t.metric?) ts
      | [] => none

/-- Arguments behind an opening parenthesis. -/
def args? : Nat → List Token → Option (List Expr × List Token)
  | 0, _ => none
  | _ + 1, .closeParen :: ts => some ([], ts)
  | fuel + 1, ts => someArgs? fuel ts

/-- One or more arguments and the closing parenthesis. -/
def someArgs? : Nat → List Token → Option (List Expr × List Token)
  | 0, _ => none
  | fuel + 1, ts => do
    match ← expr? fuel 0 ts with
    | (e, .closeParen :: ts) => return ([e], ts)
    | (e, .comma :: ts) =>
      let (more, ts) ← someArgs? fuel ts
      return (e :: more, ts)
    | _ => none

end

/-- The tree of a whole token sequence. -/
def Expr.ofTokens? (ts : List Token) : Option Expr :=
  match expr? (6 * ts.length + 6) 0 ts with
  | some (e, []) => some e
  | _ => none

end AlertRules.Query
