/-
AlertRules/Yaml/Plain.lean

Plain scalars, those without quotes: which texts can be written so, and how they
are read.
-/
import AlertRules.Yaml.Fold

namespace AlertRules.Yaml.Plain

/-! ### Writing -/

/-- Whether a condition holds of some character and the text behind it. -/
def anyWithRest (p : Char → List Char → Bool) : List Char → Bool
  | [] => false
  | c :: r => p c r || anyWithRest p r

/-- Characters that may not come first. -/
def isIndicator (c : Char) : Bool :=
  ['#', ',', '[', ']', '{', '}', '&', '*', '!', '|', '>', '\'', '"', '%', '@', '`'].contains c

/-- Whether a text starts as something else would. -/
def startsOtherwise : List Char → Bool
  | [] => false
  | c :: r =>
    isIndicator c || ((c == '?' || c == ':' || c == '-') && startsBlank r) ||
      ['-', '-', '-'].isPrefixOf (c :: r) || ['.', '.', '.'].isPrefixOf (c :: r)

/-- Whether a text has a colon before white space or its end, or a number sign
behind white space, anywhere but in the first place. -/
def endsEarly (cs : List Char) : Bool :=
  anyWithRest (fun c r => r.head? == some ':' && startsBlank (r.drop 1) ||
    (isBlank c && r.head? == some '#')) cs

/-- Whether a text can be written without quotes in a block. -/
def isWritable (cs : List Char) : Bool :=
  cs.all isPrintable && !cs.any isBreak && cs.head? != some ' ' && cs.getLast? != some ' ' &&
    !startsOtherwise cs && !endsEarly cs

/-! ### Reading -/

/-- The brackets and commas that end a plain scalar inside a flow collection. -/
def isFlowStop (c : Char) : Bool :=
  c == ',' || c == '[' || c == ']' || c == '{' || c == '}'

/-- A plain scalar, and whether it ends at the start of a line. -/
structure Result where
  text : List Char
  mark : Mark
  rest : List Char
  atLineStart : Bool
  deriving DecidableEq, Repr

/-- Whether a scalar ends where white space ends: its block is left, a document
marker stands there, or a comment. -/
def stopsAfterSpace (flow : Bool) (indent : Nat) (m : Mark) (cs : List Char) : Bool :=
  (!flow && m.column < indent) || (m.column == 0 && isDocumentMarker cs) ||
    cs.head? == some '#'

/-- Whether a colon here is a mistake: inside a flow collection it may not touch a
bracket, a comma or a question mark. -/
def isStrayColon (flow : Bool) (c : Char) (r : List Char) : Bool :=
  flow && c == ':' && r.head?.any fun d => isFlowStop d || d == '?'

/-- Whether a scalar ends at this character. -/
def stopsAt (flow : Bool) (c : Char) (r : List Char) : Bool :=
  (c == ':' && startsBlank r) || (flow && isFlowStop c)

/-- Reads on behind the characters `acc`, newest first, and the white space `p`.
`indent` is the least column of a continuation line in a block. -/
def read? (flow : Bool) (indent : Nat) (m : Mark) (p : Pending) (acc : List Char) :
    List Char → Option Result
  | [] => some ⟨acc.reverse, m, [], p.isBreaks⟩
  | c :: r =>
    if isBlank c then
      if c = '\t' ∧ p.isBreaks ∧ m.column < indent then none
      else read? flow indent (m.after c) (p.addBlank c) acc r
    else if isBreak c then read? flow indent (m.after c) (p.addBreak c) acc r
    else if !p.isEmpty && stopsAfterSpace flow indent m (c :: r) then
      some ⟨acc.reverse, m, c :: r, p.isBreaks⟩
    else if isStrayColon flow c r then none
    else if stopsAt flow c r then some ⟨acc.reverse, m, c :: r, p.isBreaks⟩
    else read? flow indent (m.after c) .none (c :: (p.fold.reverse ++ acc)) r

end AlertRules.Yaml.Plain
