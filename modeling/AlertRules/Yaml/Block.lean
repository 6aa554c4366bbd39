/-
AlertRules/Yaml/Block.lean

Block scalars, whose text is the indented lines below their header.  A literal
keeps its line breaks; a folded scalar joins lines.  The header may give the
indentation, which is otherwise that of the first line that is not empty, and
says what happens to the breaks at the end: by default one stays, a minus sign
strips all and a plus sign keeps all.
-/
import AlertRules.Yaml.Char

namespace AlertRules.Yaml.Block

/-- What happens to the breaks at the end. -/
inductive Chomping
  | strip | clip | keep
  deriving DecidableEq, Repr

/-! ### Writing -/

/-- The chomping under which the end of a text is read back. -/
def chompingOf (cs : List Char) : Chomping :=
  match cs.reverse with
  | [] => .strip
  | [c] => if isBreak c then .keep else .strip
  | c :: d :: _ => if isBreak c then (if isBreak d then .keep else .clip) else .strip

/-- What a header says: the indentation where the first line does not show it, and the
chomping. -/
def indicators (cs : List Char) : List Char :=
  (if cs.head?.any fun c => c == ' ' || isBreak c then ['2'] else []) ++
    match chompingOf cs with
    | .strip => ['-']
    | .clip => []
    | .keep => ['+']

/-- The lines of a text, indented unless they are empty. -/
def writeLines (indent : Nat) (atLineStart : Bool) : List Char → List Char
  | [] => []
  | c :: r =>
    if isBreak c then c :: writeLines indent true r
    else
      (if atLineStart then List.replicate indent ' ' else []) ++
        c :: writeLines indent false r

def write (indent : Nat) (cs : List Char) : List Char :=
  '|' :: indicators cs ++ '\n' :: writeLines indent true cs

/-! ### Reading the header -/

structure Header where
  chomping : Chomping
  /-- The indentation beyond that of the surrounding block. -/
  increment : Option Nat
  deriving DecidableEq, Repr

def chomping? (c : Char) : Option Chomping :=
  if c = '-' then some .strip else if c = '+' then some .keep else none

/-- One digit, not zero; the outer option is refusal. -/
def readIncrement? : List Char → Option (Option Nat × List Char)
  | c :: r =>
    if c.isDigit then
      if c = '0' then none else some (some (c.toNat - '0'.toNat), r)
    else some (none, c :: r)
  | [] => some (none, [])

/-- Chomping and indentation in either order. -/
def readIndicators? (cs : List Char) : Option (Header × List Char) :=
  match cs with
  | [] => some (⟨.clip, none⟩, [])
  | c :: r =>
    match chomping? c with
    | some chomping => (readIncrement? r).map fun (increment, r) => (⟨chomping, increment⟩, r)
    | none =>
      match readIncrement? (c :: r) with
      | none => none
      | some (none, r) => some (⟨.clip, none⟩, r)
      | some (some n, r) =>
        match r.head?.bind chomping? with
        | some chomping => some (⟨chomping, some n⟩, r.drop 1)
        | none => some (⟨.clip, some n⟩, r)

/-- The header behind its `|` or `>`, up to the end of its line: blanks and a
comment may follow. -/
def readHeader? (cs : List Char) : Option (Header × List Char) := do
  let (header, r) ← readIndicators? cs
  let r := r.dropWhile isBlank
  let r := if r.head? == some '#' then r.dropWhile fun c => !isBreak c else r
  match r with
  | [] => some (header, [])
  | c :: _ => if isBreak c then some (header, r) else none

/-! ### Reading the lines -/

structure Result where
  text : List Char
  mark : Mark
  rest : List Char
  deriving DecidableEq, Repr

/-- What is known while the lines of a block scalar are read. -/
structure State where
  /-- The indentation, once it is known. -/
  indent : Option Nat
  /-- The widest empty line before the first other one. -/
  widest : Nat := 0
  /-- Whether the current line has shown its first character. -/
  inLine : Bool := false
  /-- Whether the last line that was not empty starts with a blank. -/
  blankStart : Bool := false
  /-- The break behind that line. -/
  lineBreak : List Char := []
  /-- The breaks of the empty lines since then, newest first. -/
  emptyLines : List Char := []
  /-- The text before all of these, newest first. -/
  text : List Char := []
  deriving DecidableEq, Repr

/-- The text in front of a line that starts with a blank or not. -/
def State.joined (folded : Bool) (startsBlank : Bool) (s : State) : List Char :=
  if folded && s.lineBreak == ['\n'] && !s.blankStart && !startsBlank then
    s.emptyLines ++ (if s.emptyLines.isEmpty then [' '] else []) ++ s.text
  else s.emptyLines ++ s.lineBreak ++ s.text

/-- The whole text, its end treated as asked. -/
def State.finish (chomping : Chomping) (s : State) : List Char :=
  match chomping with
  | .strip => s.text.reverse
  | .clip => (s.lineBreak ++ s.text).reverse
  | .keep => (s.emptyLines ++ s.lineBreak ++ s.text).reverse

/-- Whether a space or tab at this column belongs to the indentation. -/
def State.isIndentation (s : State) (column : Nat) : Bool :=
  s.indent.all fun n => column < n

/-- The indentation that the first line which is not empty shows; it is deeper than
that of the surrounding block. -/
def State.settled (s : State) (outer : Option Nat) (column : Nat) : Nat :=
  match s.indent with
  | some n => n
  | none => max (max s.widest column) (max (match outer with | some n => n + 1 | none => 0) 1)

/-- Reads lines; `outer` is the indentation of the surrounding block. -/
def readLines? (folded : Bool) (chomping : Chomping) (outer : Option Nat) (s : State)
    (m : Mark) : List Char → Option Result
  | [] => some ⟨s.finish chomping, m, []⟩
  | c :: r =>
    if s.inLine then
      if isBreak c then
        readLines? folded chomping outer { s with inLine := false, lineBreak := [c] }
          (m.after c) r
      else readLines? folded chomping outer { s with text := c :: s.text } (m.after c) r
    else if c = ' ' ∧ s.isIndentation m.column then
      readLines? folded chomping outer s (m.after c) r
    else if c = '\t' ∧ s.isIndentation m.column then none
    else if isBreak c then
      readLines? folded chomping outer
        { s with widest := max s.widest m.column, emptyLines := c :: s.emptyLines } (m.after c) r
    else
      let indent := s.settled outer m.column
      if m.column = indent then
        readLines? folded chomping outer
          { indent := some indent, widest := s.widest, inLine := true, blankStart := isBlank c,
            lineBreak := [], emptyLines := [], text := c :: s.joined folded (isBlank c) }
          (m.after c) r
      else some ⟨s.finish chomping, m, c :: r⟩

/-- Reads a block scalar behind its `|` or `>`. -/
def read? (folded : Bool) (outer : Option Nat) (m : Mark) (cs : List Char) : Option Result := do
  let (header, r) ← readHeader? cs
  let indent := header.increment.map fun n => outer.getD 0 + n
  let m := m.skip (cs.length - r.length)
  match r with
  | [] => some ⟨[], m, []⟩
  | c :: r => readLines? folded header.chomping outer { indent := indent } (m.after c) r

end AlertRules.Yaml.Block
