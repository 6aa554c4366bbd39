/-
AlertRules/Placeholder.lean

Substitution of placeholders.  A text in brace notation is a sequence of
segments, literal text and field references; `segments` finds them or says what
is malformed.  A minus sign just inside a brace pair, with white space on its
other side, cuts the white space off the neighbouring literal.

`substitute` puts the values of the fields in place of the references.  Only the
fields `Threshold` and `Duration` have values, and a field without one is an
error: nothing is replaced by the empty text.
-/
import AlertRules.Placeholder.Brackets
import AlertRules.Text.Blank
import AlertRules.Text.Quoted

namespace AlertRules.Placeholder

/-- The values that the fields of a template have. -/
structure Bindings where
  threshold : Option String := none
  duration : Option String := none
  deriving DecidableEq, Repr, Inhabited

def Bindings.value? (b : Bindings) (field : String) : Option String :=
  if field = "Threshold" then b.threshold
  else if field = "Duration" then b.duration
  else none

inductive Segment
  | literal (text : List Char)
  | field (name : String)
  deriving DecidableEq, Repr

/-- What is wrong with a placeholder. -/
inductive Fault
  | unclosed
  | unsupported (action : String)
  deriving DecidableEq, Repr

inductive Error
  | undefinedField (field template : String)
  | malformed (template reason : String)
  deriving DecidableEq, Repr

def Fault.message : Fault → String
  | unclosed => "unclosed placeholder"
  | unsupported action => "unsupported placeholder \x7b\x7b" ++ action ++ "\x7d\x7d"

def Error.message : Error → String
  | undefinedField field template =>
    "undefined template field " ++ Text.quote field ++ " in " ++ Text.quote template
  | malformed template reason => "malformed template " ++ Text.quote template ++ ": " ++ reason

/-! ### Segments -/

/-- What stands between the braces of a placeholder, its trim marks taken off. -/
structure Action where
  trimBefore : Bool
  trimAfter : Bool
  body : List Char
  deriving DecidableEq, Repr

/-- Takes off a leading minus sign with white space behind it. -/
def stripMark (cs : List Char) : Bool × List Char :=
  match cs with
  | '-' :: c :: r => if Text.isBlank c then (true, c :: r) else (false, cs)
  | _ => (false, cs)

def Action.ofInner (inner : List Char) : Action :=
  let (trimBefore, inner) := stripMark inner
  let (trimAfter, reversed) := stripMark inner.reverse
  ⟨trimBefore, trimAfter, reversed.reverse⟩

def isIdentifierStart (c : Char) : Bool := c.isAlpha || c == '_'

def isIdentifierPart (c : Char) : Bool := c.isAlphanum || c == '_'

/-- ASCII letters, digits and underscores, not starting with a digit. -/
def isIdentifier : List Char → Bool
  | [] => false
  | c :: r => isIdentifierStart c && r.all isIdentifierPart

/-- The field that an action refers to. -/
def Action.field? (a : Action) : Option String :=
  match Text.trim a.body with
  | '.' :: name => if isIdentifier name then some (String.ofList name) else none
  | _ => none

/-- A literal segment, unless there is nothing in it. -/
def literalSegment (cs : List Char) : List Segment :=
  if cs.isEmpty then [] else [.literal cs]

/-- The segments of a text; `trimmed` says that its leading white space goes. -/
def segments (trimmed : Bool) (cs : List Char) : Except Fault (List Segment) :=
  match _h : breakAtPair? '{' cs with
  | none => .ok (literalSegment (if trimmed then Text.trimStart cs else cs))
  | some (before, after) =>
    match _h' : breakAtPair? '}' after with
    | none => .error .unclosed
    | some (inner, rest) =>
      let action := Action.ofInner inner
      match action.field? with
      | none => .error (.unsupported (String.ofList action.body))
      | some field =>
        let before := if trimmed then Text.trimStart before else before
        let before := if action.trimBefore then Text.trimEnd before else before
        (segments action.trimAfter rest).map fun more =>
          literalSegment before ++ .field field :: more
termination_by cs.length
decreasing_by
  have h1 := length_breakAtPair? _h
  have h2 := length_breakAtPair? _h'
  omega

/-- The segments of a text in either notation. -/
def segmentsOf (text : String) : Except Fault (List Segment) :=
  segments false (toBraces text.toList)

/-! ### Substitution -/

/-- The text of a segment once fields have their values. -/
def Segment.fill (b : Bindings) : Segment → List Char
  | literal text => text
  | field name => ((b.value? name).getD "").toList

/-- The first field without a value. -/
def undefinedField? (b : Bindings) (segs : List Segment) : Option String :=
  segs.findSome? fun
    | .literal _ => none
    | .field name => if (b.value? name).isNone then some name else none

/-- Puts values in place of placeholders. -/
def substitute (b : Bindings) (text : String) : Except Error String :=
  match segmentsOf text with
  | .error fault => .error (.malformed text fault.message)
  | .ok segs =>
    match undefinedField? b segs with
    | some field => .error (.undefinedField field text)
    | none => .ok (String.ofList (segs.flatMap (Segment.fill b)))

def Segment.isField : Segment → Bool
  | literal _ => false
  | field _ => true

/-- Whether a text has a placeholder in either notation; a malformed one counts. -/
def hasPlaceholders (text : String) : Bool :=
  match segmentsOf text with
  | .error _ => true
  | .ok segs => segs.any Segment.isField

end AlertRules.Placeholder
