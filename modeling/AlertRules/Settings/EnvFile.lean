/-
AlertRules/Settings/EnvFile.lean

Files of environment variables.  Physical lines are joined while a quotation or an
escape is open, a comment ends the line that it stands in, and what results is
blank or an assignment.  A malformed line ends the reading without complaint; what
was set before it stays.

A variable that the environment has already, even an empty one, keeps its value.
-/
import AlertRules.Settings
import AlertRules.Text.Alphanumeric
import AlertRules.Text.Blank

namespace AlertRules.EnvFile

/-! ### Lines -/

/-- The physical lines of a text, each with the line feed that ends it. -/
def physicalLines : List Char → List (List Char)
  | [] => []
  | c :: r =>
    if c = '\n' then [c] :: physicalLines r
    else match physicalLines r with
      | [] => [[c]]
      | line :: more => (c :: line) :: more

/-- Where in a logical line a scan stands. -/
inductive Scan
  | plain
  | blank
  | escape
  | single
  | singleEscape
  | double
  | doubleEscape
  deriving DecidableEq, Repr

/-- The state after a character outside quotations. -/
def Scan.enter (c : Char) : Scan :=
  if c = '\\' then .escape
  else if c = '"' then .double
  else if c = '\'' then .single
  else .plain

def Scan.step (c : Char) : Scan → Scan
  | plain => if Text.isBlank c && c ≠ '\n' && c ≠ '\r' then .blank else .enter c
  | blank => .enter c
  | escape => .plain
  | single => if c = '\\' then .singleEscape else if c = '\'' then .plain else .single
  | singleEscape => .single
  | double => if c = '\\' then .doubleEscape else if c = '"' then .plain else .double
  | doubleEscape => .double

/-- How a physical line ends: in a comment, with what stands before it, or in a
state of the scan. -/
inductive LineEnd
  | comment (before : List Char)
  | state (scan : Scan)

def scanLine (s : Scan) : List Char → LineEnd
  | [] => .state s
  | c :: r =>
    if s = .blank ∧ c = '#' then .comment []
    else match scanLine (s.step c) r with
      | .comment before => .comment (c :: before)
      | .state s => .state s

/-- A line without its line feed, and without a carriage return before that. -/
def dropLineEnd (cs : List Char) : List Char :=
  match cs.reverse with
  | '\n' :: '\r' :: r => r.reverse
  | '\n' :: r => r.reverse
  | _ => cs

/-- The logical lines; one that the end of the file leaves open is none.  `held` is
what the open line has so far. -/
def logicalLines (s : Scan) (held : List Char) : List (List Char) → List (Option (List Char))
  | [] => if s = .plain then [] else [none]
  | line :: more =>
    let whole := held ++ line
    if (Text.trimStart whole).head? = some '#' then some [] :: logicalLines .plain [] more
    else match scanLine s line with
      | .comment before => some (held ++ before) :: logicalLines .plain [] more
      | .state .plain => some (dropLineEnd whole) :: logicalLines .plain [] more
      | .state s => logicalLines s whole more

/-! ### Values -/

/-- What a character of a value belongs to; `quoted` says that a double quotation is
open around it. -/
inductive Mode
  | bare
  | single
  | double
  | escape (quoted : Bool)
  | name (quoted : Bool) (name : List Char)
  | braced (quoted : Bool) (name : List Char)
  | after

def Mode.outer (quoted : Bool) : Mode := if quoted then .double else .bare

/-- What an escaped character stands for. -/
def escaped? (c : Char) : Option Char :=
  if c = 'n' then some '\n'
  else if c = '\\' ∨ c = '\'' ∨ c = '"' ∨ c = '$' ∨ c = ' ' then some c
  else none

/-- Reads a value; `get` gives the values of the names in it. -/
def value? (get : List Char → List Char) (m : Mode) : List Char → Option (List Char)
  | [] =>
    match m with
    | .bare | .after | .escape false => some []
    | .name false name => some (get name)
    | .single | .double | .escape true | .name true _ | .braced .. => none
  | c :: r =>
    match m with
    | .after =>
      if c = ' ' ∨ c = '\t' then value? get .after r
      else if c = '#' then some []
      else none
    | .escape quoted =>
      match escaped? c with
      | some e => (value? get (.outer quoted) r).map (e :: ·)
      | none => none
    | .single =>
      if c = '\'' then value? get .bare r else (value? get .single r).map (c :: ·)
    | .name quoted name =>
      if Text.isAlphanumeric c then value? get (.name quoted (name ++ [c])) r
      else if c = '{' ∧ name = [] then value? get (.braced quoted []) r
      else if c = '$' then (value? get (.name quoted []) r).map (get name ++ ·)
      else (value? get (.outer quoted) r).map (get name ++ c :: ·)
    | .braced quoted name =>
      if c = '}' then (value? get (.outer quoted) r).map (get name ++ ·)
      else value? get (.braced quoted (name ++ [c])) r
    | .double =>
      if c = '$' then value? get (.name true []) r
      else if c = '"' then value? get .bare r
      else if c = '\\' then value? get (.escape true) r
      else (value? get .double r).map (c :: ·)
    | .bare =>
      if c = '$' then value? get (.name false []) r
      else if c = '\'' then value? get .single r
      else if c = '"' then value? get .double r
      else if c = '\\' then value? get (.escape false) r
      else if c = ' ' ∨ c = '\t' then value? get .after r
      else (value? get .bare r).map (c :: ·)

/-! ### Assignments -/

def isKeyStart (c : Char) : Bool := c.isAlpha || c == '_'

def isKeyPart (c : Char) : Bool := c.isAlphanum || c == '_' || c == '.'

/-- A key, and what follows it and the white space behind it. -/
def key? (cs : List Char) : Option (List Char × List Char) :=
  if cs.head?.any isKeyStart then
    some (cs.takeWhile isKeyPart, Text.trimStart (cs.dropWhile isKeyPart))
  else none

/-- What follows an equals sign and the white space behind it. -/
def equals? : List Char → Option (List Char)
  | '=' :: r => some (Text.trimStart r)
  | _ => none

/-- The key of an assignment and the text of its value; `export` may stand before
the key, or be the key. -/
def assignment? (cs : List Char) : Option (List Char × List Char) := do
  let (key, rest) ← key? cs
  match equals? rest with
  | some value => return (key, value)
  | none =>
    if key = "export".toList then
      let (key, rest) ← key? rest
      return (key, ← equals? rest)
    else none

/-- What a logical line is. -/
inductive Line
  | blank
  | assign (key value : String)
  | malformed
  deriving DecidableEq, Repr

/-- A text that says nothing: there is none, or a comment. -/
def isSilent (cs : List Char) : Bool := cs.isEmpty || cs.head? == some '#'

def readLine (get : List Char → List Char) (line : List Char) : Line :=
  let cs := Text.trim line
  if isSilent cs then .blank
  else match assignment? cs with
    | none => .malformed
    | some (key, value) =>
      if isSilent value then .assign (String.ofList key) ""
      else match value? get .bare value with
        | none => .malformed
        | some text => .assign (String.ofList key) (String.ofList text)

/-! ### Loading -/

/-- An environment with one more variable; one that is there already stays. -/
def define (env : Environment) (key value : String) : Environment :=
  fun name => (env name).or (if name = key then some value else none)

/-- The value of a name: the environment's, else the last one of the file. -/
def valueOf (env : Environment) (assigned : List (String × String)) (name : List Char) :
    List Char :=
  let name := String.ofList name
  (((env name).or (assigned.lookup name)).getD "").toList

/-- Sets the variables of logical lines; `assigned` are those of the lines before,
the latest first. -/
def loadLines (env : Environment) (assigned : List (String × String)) :
    List (Option (List Char)) → Environment
  | [] => env
  | none :: _ => env
  | some line :: more =>
    match readLine (valueOf env assigned) line with
    | .malformed => env
    | .blank => loadLines env assigned more
    | .assign key value => loadLines (define env key value) ((key, value) :: assigned) more

/-- Sets the variables of a file; a byte order mark at its beginning is skipped. -/
def load (env : Environment) (text : String) : Environment :=
  let cs := match text.toList with
    | '\ufeff' :: r => r
    | r => r
  loadLines env [] (logicalLines .plain [] (physicalLines cs))

end AlertRules.EnvFile
