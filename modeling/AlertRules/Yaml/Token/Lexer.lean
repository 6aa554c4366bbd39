/-
AlertRules/Yaml/Token/Lexer.lean

From characters to tokens.  Two things make this more than cutting a text up.

* Indentation: a block collection starts where a `-`, `?`, `:` or key stands
  deeper than the collections that are open, and ends where something stands less
  deep.  `columns` holds the columns of the open block collections.
* Keys without a question mark: only a colon behind a scalar tells that it was a
  key.  A `Candidate` remembers where the last token that may turn out to be a key
  stands, and the colon puts the key token there.  A candidate is given up at the
  end of its line and after 1024 characters; one in the column of an open mapping
  has to be a key.

Flow collections have a candidate each, and no indentation.
-/
import AlertRules.Yaml.Token
import AlertRules.Yaml.Plain
import AlertRules.Yaml.Quoted
import AlertRules.Yaml.Block

namespace AlertRules.Yaml

/-- A token that may turn out to be a key. -/
structure Candidate where
  required : Bool
  /-- The number of tokens before it. -/
  place : Nat
  mark : Mark
  deriving DecidableEq, Repr

structure Lexer where
  rest : List Char
  mark : Mark := {}
  /-- The columns of the open block collections, innermost first. -/
  columns : List Nat := []
  /-- Whether a key without a question mark may start here. -/
  keyAllowed : Bool := true
  candidate : Option Candidate := none
  /-- The candidates of the collections around the innermost flow collection. -/
  outer : List (Option Candidate) := []
  /-- The tokens read, newest first. -/
  tokens : List Token := []
  deriving DecidableEq, Repr

namespace Lexer

def inFlow (s : Lexer) : Bool := !s.outer.isEmpty

/-! ### White space and comments -/

/-- Skips white space, comments and breaks.  In a block a break allows a key again,
and where a key may start a tab is no white space. -/
def skipFrom (flow comment allowed : Bool) (m : Mark) : List Char → Bool × Mark × List Char
  | [] => (allowed, m, [])
  | c :: r =>
    if isBreak c then skipFrom flow false (allowed || !flow) (m.after c) r
    else if comment then skipFrom flow true allowed (m.after c) r
    else if c = ' ' ∨ (c = '\t' ∧ (flow || !allowed) = true) ∨
        (c = byteOrderMark ∧ m.column = 0) then
      skipFrom flow false allowed (m.after c) r
    else if c = '#' then skipFrom flow true allowed (m.after c) r
    else (allowed, m, c :: r)

def skip (s : Lexer) : Lexer :=
  let (allowed, m, rest) := skipFrom s.inFlow false s.keyAllowed s.mark s.rest
  { s with keyAllowed := allowed, mark := m, rest := rest }

/-! ### Candidates -/

/-- A candidate that is out of reach is given up, unless it has to be a key. -/
def reach? (m : Mark) : Option Candidate → Option (Option Candidate)
  | none => some none
  | some c =>
    if c.mark.line < m.line ∨ c.mark.index + 1024 < m.index then
      if c.required then none else some none
    else some (some c)

def dropStale? (s : Lexer) : Option Lexer := do
  let candidate ← reach? s.mark s.candidate
  let outer ← s.outer.mapM (reach? s.mark)
  return { s with candidate := candidate, outer := outer }

/-- Gives the candidate up, unless it has to be a key. -/
def dropCandidate? (s : Lexer) : Option Lexer :=
  if s.candidate.any Candidate.required then none else some { s with candidate := none }

/-- Makes the next token a candidate, where a key may start. -/
def saveCandidate? (s : Lexer) : Option Lexer :=
  if s.keyAllowed then do
    let s ← s.dropCandidate?
    let required := !s.inFlow && s.columns.head? == some s.mark.column
    return { s with candidate := some ⟨required, s.tokens.length, s.mark⟩ }
  else some s

/-! ### Tokens and indentation -/

def push (s : Lexer) (t : Token) : Lexer := { s with tokens := t :: s.tokens }

/-- Puts a token behind the first `place` ones. -/
def insertAt (s : Lexer) (place : Nat) (t : Token) : Lexer :=
  let newer := s.tokens.length - place
  { s with tokens := s.tokens.take newer ++ t :: s.tokens.drop newer }

/-- Moves over characters of one line. -/
def advance (s : Lexer) (n : Nat) : Lexer :=
  { s with rest := s.rest.drop n, mark := s.mark.skip n }

/-- Ends the block collections that are deeper than a column. -/
def unwind (column : Nat) : List Nat → List Token → List Nat × List Token
  | [], ts => ([], ts)
  | c :: cs, ts => if column < c then unwind column cs (.blockEnd :: ts) else (c :: cs, ts)

def unroll (s : Lexer) : Lexer :=
  if s.inFlow then s
  else
    let (columns, tokens) := unwind s.mark.column s.columns s.tokens
    { s with columns := columns, tokens := tokens }

/-- Ends all block collections. -/
def unrollAll (s : Lexer) : Lexer :=
  if s.inFlow then s
  else { s with columns := [], tokens := s.columns.map (fun _ => .blockEnd) ++ s.tokens }

/-- Starts a block collection at a column, if that is deeper than the open ones. -/
def roll (s : Lexer) (column place : Nat) (t : Token) : Lexer :=
  if !s.inFlow && s.columns.head?.all (· < column) then
    { s.insertAt place t with columns := column :: s.columns }
  else s

/-! ### One token -/

/-- A `---` or `...`, or another token that ends all that is open. -/
def document? (s : Lexer) (t : Token) (length : Nat) : Option Lexer := do
  let s ← s.unrollAll.dropCandidate?
  return { (s.advance length).push t with keyAllowed := false }

def flowStart? (s : Lexer) (t : Token) : Option Lexer := do
  let s ← s.saveCandidate?
  return { (s.advance 1).push t with
    candidate := none, outer := s.candidate :: s.outer, keyAllowed := true }

def flowEnd? (s : Lexer) (t : Token) : Option Lexer := do
  let s ← s.dropCandidate?
  let s := { (s.advance 1).push t with keyAllowed := false }
  return match s.outer with
    | [] => s
    | c :: outer => { s with candidate := c, outer := outer }

def flowEntry? (s : Lexer) : Option Lexer := do
  let s ← s.dropCandidate?
  return { (s.advance 1).push .flowEntry with keyAllowed := true }

def blockEntry? (s : Lexer) : Option Lexer := do
  if !s.inFlow && !s.keyAllowed then none
  let s ← (s.roll s.mark.column s.tokens.length .blockSequenceStart).dropCandidate?
  return { (s.advance 1).push .blockEntry with keyAllowed := true }

def key? (s : Lexer) : Option Lexer := do
  if !s.inFlow && !s.keyAllowed then none
  let s ← (s.roll s.mark.column s.tokens.length .blockMappingStart).dropCandidate?
  return { (s.advance 1).push .key with keyAllowed := !s.inFlow }

/-- A colon: behind a candidate it makes that a key, elsewhere it needs a place where
a key may start. -/
def value? (s : Lexer) : Option Lexer :=
  match s.candidate with
  | some c =>
    let s := (s.insertAt c.place .key).roll c.mark.column c.place .blockMappingStart
    some { (s.advance 1).push .value with candidate := none, keyAllowed := false }
  | none => do
    if !s.inFlow && !s.keyAllowed then none
    let s := s.roll s.mark.column s.tokens.length .blockMappingStart
    return { (s.advance 1).push .value with keyAllowed := !s.inFlow }

/-- An anchor, an alias or a tag: one character and `length` more. -/
def property? (s : Lexer) (t : Token) (length : Nat) : Option Lexer := do
  let s ← s.saveCandidate?
  return { (s.advance (1 + length)).push t with keyAllowed := false }

def block? (s : Lexer) (folded : Bool) : Option Lexer := do
  let s ← s.dropCandidate?
  let r ← Block.read? folded s.columns.head? (s.mark.skip 1) (s.rest.drop 1)
  return { s.push (.scalar false r.text) with rest := r.rest, mark := r.mark, keyAllowed := true }

def quoted? (s : Lexer) (single : Bool) : Option Lexer := do
  let s ← s.saveCandidate?
  let r ← Quoted.read? single (s.mark.skip 1) .none [] (s.rest.drop 1)
  return { s.push (.scalar false r.text) with rest := r.rest, mark := r.mark, keyAllowed := false }

/-- The least column of the further lines of a plain scalar. -/
def plainIndent : List Nat → Nat
  | [] => 0
  | c :: _ => c + 1

def plain? (s : Lexer) : Option Lexer := do
  let s ← s.saveCandidate?
  let r ← Plain.read? s.inFlow (plainIndent s.columns) s.mark .none [] s.rest
  return { s.push (.scalar true r.text) with
    rest := r.rest, mark := r.mark, keyAllowed := r.atLineStart }

/-- Whether a plain scalar may start with this character. -/
def startsPlain (flow : Bool) (c : Char) (r : List Char) : Bool :=
  if c == '-' then !r.head?.all isBlank
  else if c == '?' || c == ':' then !flow && !startsBlank r
  else !Plain.isIndicator c && !isBlank c && !isBreak c

/-- The token that starts with `c`. -/
def token? (s : Lexer) (c : Char) (r : List Char) : Option Lexer :=
  if s.mark.column = 0 ∧ c = '%' then do
    let lexeme ← Token.directive? r
    s.document? lexeme.token (1 + lexeme.length)
  else if s.mark.column = 0 ∧ isDocumentMarker (c :: r) then
    s.document? (if c = '-' then .documentStart else .documentEnd) 3
  else if c = '[' then s.flowStart? .flowSequenceStart
  else if c = '{' then s.flowStart? .flowMappingStart
  else if c = ']' then s.flowEnd? .flowSequenceEnd
  else if c = '}' then s.flowEnd? .flowMappingEnd
  else if c = ',' then s.flowEntry?
  else if c = '-' ∧ startsBlank r then s.blockEntry?
  else if c = '?' ∧ (s.inFlow || startsBlank r) then s.key?
  else if c = ':' ∧ (s.inFlow || startsBlank r) then s.value?
  else if c = '*' then do
    let name ← Token.anchorName? r
    s.property? (.reference name) name.length
  else if c = '&' then do
    let name ← Token.anchorName? r
    s.property? (.anchor name) name.length
  else if c = '!' then do
    let lexeme ← Token.tag? s.inFlow r
    s.property? lexeme.token lexeme.length
  else if c = '|' ∧ !s.inFlow then s.block? false
  else if c = '>' ∧ !s.inFlow then s.block? true
  else if c = '\'' then s.quoted? true
  else if c = '"' then s.quoted? false
  else if startsPlain s.inFlow c r then s.plain?
  else none

/-! ### All tokens -/

/-- The tokens at the end of the text. -/
def finish? (s : Lexer) : Option (List Token) :=
  s.unrollAll.dropCandidate?.map fun s => s.tokens.reverse

/-- Reads all tokens; each takes at least one character. -/
def run? (s : Lexer) : Option (List Token) :=
  match s.skip.dropStale? with
  | none => none
  | some t =>
    match t.rest with
    | [] => t.unroll.finish?
    | c :: r =>
      match t.unroll.token? c r with
      | none => none
      | some t => if t.rest.length < s.rest.length then run? t else none
termination_by s.rest.length

end Lexer

/-- The tokens of a text. -/
def Token.scan? (text : List Char) : Option (List Token) :=
  if text.all isAllowed then Lexer.run? { rest := unifyBreaks text } else none

end AlertRules.Yaml
