/-
AlertRules/Query/Expr.lean

The syntax tree of a query.  An offset and an evaluation time belong to the
selector or subquery that they modify, and a range belongs to a selector, so the
tree has no place for them anywhere else.
-/
import AlertRules.Query.Number

namespace AlertRules.Query

/-- What an expression evaluates to. -/
inductive ValueType
  | scalar | string | vector | matrix
  deriving DecidableEq, Repr

/-- How a label is compared with a text or a pattern. -/
inductive MatchOp
  | equal | notEqual | like | unlike
  deriving DecidableEq, Repr

structure Matcher where
  label : List Char
  op : MatchOp
  value : List Char
  deriving DecidableEq, Repr

/-- The moment after `@`. -/
inductive Moment
  | time (n : Number)
  | start
  | stop
  deriving DecidableEq, Repr

/-- When a selector or subquery is evaluated, apart from the time of the query. -/
structure Shift where
  offset : Option Int := none
  moment : Option Moment := none
  deriving DecidableEq, Repr, Inhabited

structure Selector where
  metric : Option (List Char)
  matchers : List Matcher
  deriving DecidableEq, Repr

inductive BinaryOp
  | or | and | unlessOp
  | eql | neq | lss | lte | gtr | gte
  | add | sub | mul | div | mod | atan2 | pow
  deriving DecidableEq, Repr

/-- Which labels a binary operator pairs its operands by. -/
inductive Pairing
  | on (labels : List (List Char))
  | ignoring (labels : List (List Char))
  deriving DecidableEq, Repr

/-- What stands between a binary operator and its right operand. -/
structure Matching where
  asBool : Bool := false
  pairing : Option Pairing := none
  /-- The labels that `group_left` or `group_right` adds. -/
  group : Option (List (List Char)) := none
  deriving DecidableEq, Repr, Inhabited

inductive Aggregation
  | sum | avg | count | min | max | group | stddev | stdvar
  | topk | bottomk | countValues | quantile
  deriving DecidableEq, Repr

inductive Grouping
  | keep (labels : List (List Char))
  | drop (labels : List (List Char))
  deriving DecidableEq, Repr

/-- The arguments that a function takes after the required ones. -/
inductive FurtherArgs
  | none
  | atMostOne (type : ValueType)
  | any (type : ValueType)
  deriving DecidableEq, Repr

structure Function where
  name : List Char
  required : List ValueType
  further : FurtherArgs
  result : ValueType
  deriving DecidableEq, Repr

inductive Expr
  | number (n : Number)
  | string (text : List Char)
  | paren (e : Expr)
  | selector (s : Selector) (shift : Shift)
  | range (s : Selector) (length : Nat) (shift : Shift)
  | subquery (e : Expr) (length : Nat) (step : Option Nat) (shift : Shift)
  | call (f : Function) (args : List Expr)
  | aggregate (a : Aggregation) (grouping : Option Grouping) (param : Option Expr) (body : Expr)
  | negate (e : Expr)
  | binary (op : BinaryOp) (matching : Matching) (left right : Expr)
  deriving Repr, Inhabited

/-! ### Operators -/

/-- How tightly an operator binds. -/
def BinaryOp.level : BinaryOp → Nat
  | or => 1
  | and | unlessOp => 2
  | eql | neq | lss | lte | gtr | gte => 3
  | add | sub => 4
  | mul | div | mod | atan2 => 5
  | pow => 6

/-- The least level that a right operand may have: one more than the operator's
own, since all but the power group to the left. -/
def BinaryOp.rightLevel (op : BinaryOp) : Nat :=
  if op = pow then op.level else op.level + 1

def BinaryOp.isComparison : BinaryOp → Bool
  | eql | neq | lss | lte | gtr | gte => true
  | _ => false

def BinaryOp.isSet : BinaryOp → Bool
  | or | and | unlessOp => true
  | _ => false

/-- Aggregations that take a parameter, and the type of it. -/
def Aggregation.param? : Aggregation → Option ValueType
  | topk | bottomk | quantile => some .scalar
  | countValues => some .string
  | _ => none

/-! ### Functions -/

/-- The functions of one instant vector that give an instant vector. -/
def vectorFunctions : List String :=
  ["abs", "absent", "acos", "acosh", "asin", "asinh", "atan", "atanh", "ceil", "cos", "cosh",
    "deg", "exp", "floor", "histogram_count", "histogram_sum", "ln", "log10", "log2", "rad",
    "sgn", "sin", "sinh", "sort", "sort_desc", "sqrt", "tan", "tanh", "timestamp"]

/-- The functions whose vector may be left out. -/
def calendarFunctions : List String :=
  ["days_in_month", "day_of_month", "day_of_week", "day_of_year", "hour", "minute", "month",
    "year"]

/-- The functions of one range vector. -/
def matrixFunctions : List String :=
  ["absent_over_time", "avg_over_time", "changes", "count_over_time", "delta", "deriv", "idelta",
    "increase", "irate", "last_over_time", "max_over_time", "min_over_time",
    "present_over_time", "rate", "resets", "stddev_over_time", "stdvar_over_time",
    "sum_over_time"]

/-- The functions with signatures of their own. -/
def otherFunctions : List (String × List ValueType × FurtherArgs × ValueType) :=
  [("clamp", [.vector, .scalar, .scalar], .none, .vector),
    ("clamp_max", [.vector, .scalar], .none, .vector),
    ("clamp_min", [.vector, .scalar], .none, .vector),
    ("histogram_fraction", [.scalar, .scalar, .vector], .none, .vector),
    ("histogram_quantile", [.scalar, .vector], .none, .vector),
    ("holt_winters", [.matrix, .scalar, .scalar], .none, .vector),
    ("label_join", [.vector, .string, .string], .any .string, .vector),
    ("label_replace", [.vector, .string, .string, .string, .string], .none, .vector),
    ("pi", [], .none, .scalar),
    ("predict_linear", [.matrix, .scalar], .none, .vector),
    ("quantile_over_time", [.scalar, .matrix], .none, .vector),
    ("round", [.vector], .atMostOne .scalar, .vector),
    ("scalar", [.vector], .none, .scalar),
    ("time", [], .none, .scalar),
    ("vector", [.scalar], .none, .vector)]

def Function.ofName? (name : List Char) : Option Function :=
  let text := String.ofList name
  if vectorFunctions.contains text then some ⟨name, [.vector], .none, .vector⟩
  else if calendarFunctions.contains text then some ⟨name, [], .atMostOne .vector, .vector⟩
  else if matrixFunctions.contains text then some ⟨name, [.matrix], .none, .vector⟩
  else (otherFunctions.lookup text).map fun (required, further, result) =>
    ⟨name, required, further, result⟩

/-! ### Building trees -/

namespace Expr

/-- A minus sign in front of a literal makes a negative literal. -/
def neg : Expr → Expr
  | number n => number n.neg
  | e => negate e

/-- The selector of an expression that is nothing else. -/
def range? (length : Nat) : Expr → Option Expr
  | selector s ⟨none, none⟩ => some (range s length {})
  | _ => none

/-- An offset, on what has none yet. -/
def offset? (ms : Int) : Expr → Option Expr
  | selector s ⟨none, m⟩ => some (selector s ⟨some ms, m⟩)
  | range s n ⟨none, m⟩ => some (range s n ⟨some ms, m⟩)
  | subquery e n step ⟨none, m⟩ => some (subquery e n step ⟨some ms, m⟩)
  | _ => none

/-- An evaluation time, on what has none yet. -/
def at? (moment : Moment) : Expr → Option Expr
  | selector s ⟨o, none⟩ => some (selector s ⟨o, some moment⟩)
  | range s n ⟨o, none⟩ => some (range s n ⟨o, some moment⟩)
  | subquery e n step ⟨o, none⟩ => some (subquery e n step ⟨o, some moment⟩)
  | _ => none

end Expr

end AlertRules.Query
