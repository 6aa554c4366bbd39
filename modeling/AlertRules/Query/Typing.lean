/-
AlertRules/Query/Typing.lean

The rules that a syntax tree has to keep beyond the grammar: the types of
operands and arguments, what may stand behind an operator, and which selectors
select anything at all.
-/
import AlertRules.Pattern
import AlertRules.Query.Expr

namespace AlertRules.Query

/-! ### Selectors -/

/-- A pattern has to be one. -/
def Matcher.isValid (m : Matcher) : Bool :=
  match m.op with
  | .equal | .notEqual => true
  | .like | .unlike => (Pattern.read? m.value).isSome

/-- Whether a series without the label passes. -/
def Matcher.passesEmpty (m : Matcher) : Bool :=
  match m.op with
  | .equal => m.value.isEmpty
  | .notEqual => !m.value.isEmpty
  | .like => (Pattern.read? m.value).any Pattern.matchesEmpty
  | .unlike => !(Pattern.read? m.value).any Pattern.matchesEmpty

def nameLabel : List Char := "__name__".toList

/-- With a metric no matcher may name the metric again; without one, some matcher
has to refuse the empty text. -/
def Selector.isValid (s : Selector) : Bool :=
  s.matchers.all Matcher.isValid &&
    match s.metric with
    | some _ => s.matchers.all fun m => m.label ≠ nameLabel
    | none => s.matchers.any fun m => !m.passesEmpty

/-! ### Types -/

/-- The type of a tree: parentheses and signs keep it, and of binary operators only
those between scalars give a scalar. -/
def Expr.type : Expr → ValueType
  | number _ => .scalar
  | string _ => .string
  | paren e => e.type
  | selector _ _ => .vector
  | range _ _ _ => .matrix
  | subquery _ _ _ _ => .matrix
  | call f _ => f.result
  | aggregate _ _ _ _ => .vector
  | negate e => e.type
  | binary _ _ l r => if l.type = .scalar ∧ r.type = .scalar then .scalar else .vector

/-- Scalars and instant vectors are what operators work on. -/
def ValueType.isOperand : ValueType → Bool
  | scalar | vector => true
  | _ => false

def Pairing.labels : Pairing → List (List Char)
  | on ls | ignoring ls => ls

/-- No label both pairs and is added. -/
def Matching.isDisjoint (m : Matching) : Bool :=
  match m.pairing, m.group with
  | some (.on ls), some added => added.all fun l => !ls.contains l
  | _, _ => true

/-- Whether an operator may stand between operands of two types. -/
def BinaryOp.accepts (op : BinaryOp) (m : Matching) (l r : ValueType) : Bool :=
  let scalars := l == .scalar && r == .scalar
  l.isOperand && r.isOperand &&
    (!m.asBool || op.isComparison) &&
    (!(op.isComparison && scalars) || m.asBool) &&
    (!op.isSet || (l == .vector && r == .vector && m.group.isNone)) &&
    ((m.pairing.map Pairing.labels).getD [] == [] || (l == .vector && r == .vector)) &&
    m.isDisjoint

/-- Whether a function takes arguments of these types. -/
def Function.accepts (f : Function) (types : List ValueType) : Bool :=
  types.take f.required.length == f.required &&
    match f.further, types.drop f.required.length with
    | .none, more => more.isEmpty
    | .atMostOne t, more => more == [] || more == [t]
    | .any t, more => more.all (· == t)

/-- Some functions of a vector also take the literals on which their result is the
same for every sample. -/
def Function.acceptsLiteral (f : Function) (args : List Expr) : Bool :=
  match args with
  | [.number n] =>
    if f.name = "exp".toList then !n.isFinite
    else if ["ln".toList, "log2".toList, "log10".toList].contains f.name then
      !n.isFinite || n.nonPositive
    else false
  | _ => false

mutual

def Expr.isWellTyped : Expr → Bool
  | .number _ => true
  | .string _ => true
  | .paren e => e.isWellTyped
  | .selector s _ => s.isValid
  | .range s _ _ => s.isValid
  | .subquery e _ _ _ => e.isWellTyped && e.type == .vector
  | .call f args =>
    Expr.areWellTyped args && (f.accepts (args.map Expr.type) || f.acceptsLiteral args)
  | .aggregate _ _ none body => body.isWellTyped && body.type == .vector
  | .aggregate a _ (some p) body =>
    body.isWellTyped && body.type == .vector && p.isWellTyped && a.param? == some p.type
  | .negate e => e.isWellTyped && e.type.isOperand
  | .binary op m l r => l.isWellTyped && r.isWellTyped && op.accepts m l.type r.type

def Expr.areWellTyped : List Expr → Bool
  | [] => true
  | e :: es => e.isWellTyped && Expr.areWellTyped es

end

end AlertRules.Query
