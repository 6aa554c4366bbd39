/-
AlertRules/Pattern.lean

The patterns that a query compares labels with: which texts are patterns, and
whether a pattern is found in the empty text.  A pattern is an alternation of
sequences of repeated items; a `{` that starts no repetition stands for itself.
There is no look-around and there are no references to groups.

Only what a pattern does on the empty text is ever asked, so the tree forgets
which characters an item matches.
-/
import AlertRules.Text.Blank
import AlertRules.Text.Decimal
import AlertRules.Pattern.Property

namespace AlertRules

inductive Pattern
  | empty
  /-- An item that matches exactly one character. -/
  | single
  /-- An item that matches between characters, and whether it does in the empty text. -/
  | assertion (onEmpty : Bool)
  | group (name : Option (List Char)) (p : Pattern)
  | sequence (p q : Pattern)
  | either (p q : Pattern)
  /-- At least `least` times. -/
  | repeated (least : Nat) (p : Pattern)
  deriving DecidableEq, Repr, Inhabited

namespace Pattern

/-- Whether a pattern is found in the empty text. -/
def matchesEmpty : Pattern → Bool
  | empty => true
  | single => false
  | assertion onEmpty => onEmpty
  | group _ p => p.matchesEmpty
  | sequence p q => p.matchesEmpty && q.matchesEmpty
  | either p q => p.matchesEmpty || q.matchesEmpty
  | repeated least p => least == 0 || p.matchesEmpty

/-- The names of its groups. -/
def groupNames : Pattern → List (List Char)
  | empty | single | assertion _ => []
  | group name p => name.toList ++ p.groupNames
  | sequence p q | either p q => p.groupNames ++ q.groupNames
  | repeated _ p => p.groupNames

/-! ### Escapes -/

/-- What a backslash and the characters behind it stand for. -/
inductive Escape
  | literal (code : Nat)
  | charClass
  | assertion (onEmpty : Bool)
  deriving DecidableEq, Repr

def hexValue? (c : Char) : Option Nat :=
  if c.isDigit then some (c.toNat - '0'.toNat)
  else if 'a' ≤ c && c ≤ 'f' then some (c.toNat - 'a'.toNat + 10)
  else if 'A' ≤ c && c ≤ 'F' then some (c.toNat - 'A'.toNat + 10)
  else none

/-- The code point that hexadecimal digits stand for, if there is one. -/
def codePoint? (digits : List Char) : Option Nat := do
  if digits.isEmpty then none
  let ds ← digits.mapM hexValue?
  let n := ds.foldl (fun n d => 16 * n + d) 0
  if n.isValidChar then some n else none

/-- A code point by `width` digits, or by any number of them in braces. -/
def hexEscape? (width : Nat) (cs : List Char) : Option (Escape × List Char) :=
  match cs with
  | '{' :: r =>
    match r.dropWhile (· ≠ '}') with
    | _ :: rest => (codePoint? (r.takeWhile (· ≠ '}'))).map fun n => (.literal n, rest)
    | [] => none
  | _ =>
    if width ≤ cs.length then
      (codePoint? (cs.take width)).map fun n => (.literal n, cs.drop width)
    else none

/-- A property by one letter, or by its name in braces. -/
def propertyEscape? (cs : List Char) : Option (Escape × List Char) :=
  match cs with
  | '{' :: r =>
    match r.dropWhile (· ≠ '}') with
    | _ :: rest => if isProperty (r.takeWhile (· ≠ '}')) then some (.charClass, rest) else none
    | [] => none
  | c :: r => if isProperty [c] then some (.charClass, r) else none
  | [] => none

/-- A word boundary, perhaps of a special kind. -/
def boundaryEscape? (cs : List Char) : Option (Escape × List Char) :=
  match cs with
  | '{' :: c :: r =>
    if c.isAlpha || c == '-' then
      let name := c :: r.takeWhile fun c => c.isAlpha || c == '-'
      match r.dropWhile fun c => c.isAlpha || c == '-' with
      | '}' :: rest =>
        if name = "start".toList ∨ name = "end".toList then some (.assertion false, rest)
        else if name = "start-half".toList ∨ name = "end-half".toList then
          some (.assertion true, rest)
        else none
      | _ => none
    else some (.assertion false, cs)
  | _ => some (.assertion false, cs)

/-- What stands behind a backslash. -/
def escape? (cs : List Char) : Option (Escape × List Char) :=
  match cs with
  | [] => none
  | 'x' :: r => hexEscape? 2 r
  | 'u' :: r => hexEscape? 4 r
  | 'U' :: r => hexEscape? 8 r
  | 'p' :: r => propertyEscape? r
  | 'P' :: r => propertyEscape? r
  | 'b' :: r => boundaryEscape? r
  | c :: r =>
    if ['d', 's', 'w', 'D', 'S', 'W'].contains c then some (.charClass, r)
    else if c = 'a' then some (.literal 7, r)
    else if c = 'f' then some (.literal 12, r)
    else if c = 't' then some (.literal 9, r)
    else if c = 'n' then some (.literal 10, r)
    else if c = 'r' then some (.literal 13, r)
    else if c = 'v' then some (.literal 11, r)
    else if c = 'A' ∨ c = 'z' ∨ c = 'B' then some (.assertion true, r)
    else if c = '<' ∨ c = '>' then some (.assertion false, r)
    else if c.toNat < 0x80 && !c.isAlphanum then some (.literal c.toNat, r)
    else none

/-! ### Character classes -/

/-- White space and comments count for nothing where `verbose` is set. -/
def skipVerbose (verbose : Bool) (cs : List Char) : List Char :=
  if verbose then go cs.length cs else cs
where
  go : Nat → List Char → List Char
    | 0, cs => cs
    | fuel + 1, cs =>
      match cs with
      | '#' :: r => go fuel ((r.dropWhile (· ≠ '\n')).drop 1)
      | c :: r => if Text.isBlank c then go fuel r else cs
      | [] => []

/-- An item of a class: a literal by its code point, or a class. -/
def classItem? (cs : List Char) : Option (Option Nat × List Char) :=
  match cs with
  | [] => none
  | '\\' :: r =>
    match escape? r with
    | some (.literal n, r) => some (some n, r)
    | some (.charClass, r) => some (none, r)
    | _ => none
  | c :: r => some (some c.toNat, r)

def asciiClassNames : List (List Char) :=
  ["alnum", "alpha", "ascii", "blank", "cntrl", "digit", "graph", "lower", "print", "punct",
    "space", "upper", "word", "xdigit"].map String.toList

/-- What is left behind a class such as `[:alpha:]`, from its colon on. -/
def afterAsciiClass? (cs : List Char) : Option (List Char) :=
  match cs with
  | ':' :: r =>
    let r := if r.head? == some '^' then r.drop 1 else r
    match r.dropWhile (· ≠ ':') with
    | ':' :: ']' :: rest =>
      if asciiClassNames.contains (r.takeWhile (· ≠ ':')) then some rest else none
    | _ => none
  | _ => none

/-- What is left behind the literal hyphens and brackets that a class may start with. -/
def afterClassStart (verbose : Bool) (cs : List Char) : List Char :=
  let cs := skipVerbose verbose cs
  let cs := if cs.head? == some '^' then skipVerbose verbose (cs.drop 1) else cs
  let rest := cs.dropWhile (· = '-')
  if rest.length < cs.length then skipVerbose verbose rest
  else match cs with
    | ']' :: r => r
    | _ => cs

/-- What is left behind a class with `depth` brackets still open. -/
def afterClass? : Nat → Bool → Nat → List Char → Option (List Char)
  | 0, _, _, _ => none
  | fuel + 1, verbose, depth, cs =>
    match skipVerbose verbose cs with
    | [] => none
    | '[' :: r =>
      match afterAsciiClass? r with
      | some rest => afterClass? fuel verbose depth rest
      | none => afterClass? fuel verbose (depth + 1) (afterClassStart verbose r)
    | ']' :: r => if depth ≤ 1 then some r else afterClass? fuel verbose (depth - 1) r
    | '&' :: '&' :: r => afterClass? fuel verbose depth r
    | '-' :: '-' :: r => afterClass? fuel verbose depth r
    | '~' :: '~' :: r => afterClass? fuel verbose depth r
    | cs =>
      match classItem? cs with
      | none => none
      | some (first, r) =>
        match skipVerbose verbose r with
        | '-' :: r' =>
          let next := (skipVerbose verbose r').head?
          if next == some ']' || next == some '-' then afterClass? fuel verbose depth r
          else match first, classItem? (skipVerbose verbose r') with
            | some a, some (some b, r) =>
              if a ≤ b then afterClass? fuel verbose depth r else none
            | _, _ => none
        | r => afterClass? fuel verbose depth r

/-! ### Repetitions and flags -/

/-- A decimal number below 2^32, with white space around it. -/
def count? (cs : List Char) : Option (Nat × List Char) :=
  let cs := Text.trimStart cs
  let digits := cs.takeWhile Char.isDigit
  if digits.isEmpty then none
  else
    let n := Text.Decimal.value digits
    if n < Nat.pow 2 32 then some (n, Text.trimStart (cs.dropWhile Char.isDigit)) else none

/-- The least count of a repetition behind its opening brace. -/
def repetition? (verbose : Bool) (cs : List Char) : Option (Nat × List Char) := do
  let (least, cs) ← count? (skipVerbose verbose cs)
  match cs with
  | '}' :: r => some (least, r)
  | ',' :: r =>
    match skipVerbose verbose r with
    | '}' :: r => some (least, r)
    | r => do
      let (most, r) ← count? r
      match r with
      | '}' :: r => if least ≤ most then some (least, r) else none
      | _ => none
  | _ => none

/-- A question mark behind a repetition makes it lazy, which changes nothing here. -/
def dropLazy (cs : List Char) : List Char := if cs.head? == some '?' then cs.drop 1 else cs

/-- Flags behind `(?`, and whether they turn verbose writing on or off; the flag
list ends with a colon or a closing parenthesis. -/
def flags? (verbose : Bool) (cs : List Char) : Option (Bool × Char × List Char) :=
  go verbose false [] false cs
where
  go (verbose negated : Bool) (seen : List Char) (dangling : Bool) :
      List Char → Option (Bool × Char × List Char)
    | [] => none
    | c :: r =>
      if c = ':' ∨ c = ')' then
        if dangling ∨ (c = ')' ∧ seen.isEmpty) then none else some (verbose, c, r)
      else if c = '-' then
        if negated then none else go verbose true seen true r
      else if ['i', 'm', 's', 'U', 'u', 'R', 'x'].contains c && !seen.contains c then
        go (if c = 'x' then !negated else verbose) negated (c :: seen) false r
      else none

/-- The name of a group, up to its closing angle bracket. -/
def groupName? (cs : List Char) : Option (List Char × List Char) :=
  let name := cs.takeWhile (· ≠ '>')
  match name, cs.dropWhile (· ≠ '>') with
  | c :: more, _ :: rest =>
    let isStart (c : Char) : Bool := c == '_' || c.isAlpha || 0x80 ≤ c.toNat
    let isPart (c : Char) : Bool := isStart c || c.isDigit || c == '.' || c == '[' || c == ']'
    if isStart c && more.all isPart then some (name, rest) else none
  | _, _ => none

/-! ### Reading patterns -/

/-- A sequence so far: all items but the last, and the last, which a repetition
behind it takes. -/
structure Items where
  before : Pattern
  last : Option Pattern
  deriving Repr

def Items.toPattern (items : Items) : Pattern :=
  match items.last with
  | none => items.before
  | some p => .sequence items.before p

def Items.push (items : Items) (p : Pattern) : Items := ⟨items.toPattern, some p⟩

/-- Repeats the last item; there has to be one. -/
def Items.repeat? (items : Items) (least : Nat) : Option Items :=
  items.last.map fun p => ⟨items.before, some (.repeated least p)⟩

mutual

/-- An alternation, up to a closing parenthesis or the end. -/
def alternation? : Nat → Bool → List Char → Option (Pattern × List Char)
  | 0, _, _ => none
  | fuel + 1, verbose, cs => do
    let (p, verbose, cs) ← items? fuel verbose ⟨.empty, none⟩ cs
    match cs with
    | '|' :: r =>
      let (q, r) ← alternation? fuel verbose r
      return (.either p q, r)
    | _ => return (p, cs)

/-- The items of a sequence behind those already read, and whether writing is
verbose after them. -/
def items? : Nat → Bool → Items → List Char → Option (Pattern × Bool × List Char)
  | 0, _, _, _ => none
  | fuel + 1, verbose, items, cs =>
    match skipVerbose verbose cs with
    | [] => some (items.toPattern, verbose, [])
    | c :: r =>
      if c = '|' ∨ c = ')' then some (items.toPattern, verbose, c :: r)
      else if c = '(' then
        match skipVerbose verbose r with
        | '?' :: 'P' :: '<' :: r | '?' :: '<' :: r => do
          let (name, r) ← groupName? r
          close? fuel verbose items (some name) verbose r
        | '?' :: r => do
          let (inner, stop, r) ← flags? verbose r
          if stop = ')' then items? fuel inner ⟨items.toPattern, none⟩ r
          else close? fuel verbose items none inner r
        | _ => close? fuel verbose items none verbose r
      else if c = '?' ∨ c = '*' then do
        items? fuel verbose (← items.repeat? 0) (dropLazy r)
      else if c = '+' then do
        items? fuel verbose (← items.repeat? 1) (dropLazy r)
      else if c = '{' then do
        let (least, r) ← repetition? verbose r
        items? fuel verbose (← items.repeat? least) (dropLazy (skipVerbose verbose r))
      else if c = '[' then do
        let r ← afterClass? (r.length + 1) verbose 1 (afterClassStart verbose r)
        items? fuel verbose (items.push .single) r
      else if c = '\\' then do
        let (e, r) ← escape? r
        let item := match e with
          | .assertion onEmpty => Pattern.assertion onEmpty
          | _ => .single
        items? fuel verbose (items.push item) r
      else if c = '^' ∨ c = '$' then items? fuel verbose (items.push (.assertion true)) r
      else items? fuel verbose (items.push .single) r

/-- The inside of a group, its closing parenthesis, and the items behind it. -/
def close? : Nat → Bool → Items → Option (List Char) → Bool → List Char →
    Option (Pattern × Bool × List Char)
  | 0, _, _, _, _, _ => none
  | fuel + 1, verbose, items, name, inner, cs => do
    match ← alternation? fuel inner cs with
    | (p, ')' :: r) => items? fuel verbose (items.push (.group name p)) r
    | _ => none

end

/-- Reads a pattern as it stands. -/
def readStrict? (cs : List Char) : Option Pattern :=
  match alternation? (3 * cs.length + 3) false cs with
  | some (p, []) => if p.groupNames.Nodup then some p else none
  | _ => none

/-- Whether a repetition starts behind a brace, and how many characters it takes to
tell: digits, perhaps one comma among them, then a closing brace. -/
def probeRepetition (first comma : Bool) : List Char → Bool × Nat
  | [] => (false, 0)
  | c :: r =>
    if c = '}' then (!first, 1)
    else if c.isDigit ∨ (c = ',' ∧ first = false ∧ comma = false) then
      let (starts, n) := probeRepetition false (comma || c == ',') r
      (starts, n + 1)
    else (false, 1)

/-- Puts a backslash before a brace that starts no repetition.  The characters that
it takes to tell are not looked at again. -/
def escapeBraces (cs : List Char) : List Char :=
  match cs with
  | [] => []
  | ['\\'] => []
  | '\\' :: c :: r => '\\' :: c :: escapeBraces r
  | c :: r =>
    if c = '{' then
      let (starts, n) := probeRepetition true false r
      (if starts then ['{'] else ['\\', '{']) ++ r.take n ++ escapeBraces (r.drop n)
    else c :: escapeBraces r
termination_by cs.length
decreasing_by
  all_goals simp only [List.length_drop, List.length_cons]; omega

/-- Reads a pattern; if it is none as it stands, braces may stand for themselves. -/
def read? (cs : List Char) : Option Pattern :=
  match readStrict? cs with
  | some p => some p
  | none => readStrict? (escapeBraces cs)

end Pattern

end AlertRules
