/-
AlertRules/Yaml/Quoted.lean

Quoted scalars.  Between single quotes only the quote itself is special, and is
doubled; between double quotes a backslash starts an escape, so every text can be
written on one line.
-/
import AlertRules.Yaml.Fold

namespace AlertRules.Yaml.Quoted

/-! ### Writing -/

/-- Breaks are followed by the indentation of the line that they start. -/
def writeSingleFrom (indent : Nat) (afterBreak : Bool) : List Char → List Char
  | [] => if afterBreak then List.replicate indent ' ' else []
  | c :: r =>
    if isBreak c then c :: writeSingleFrom indent true r
    else
      (if afterBreak then List.replicate indent ' ' else []) ++
        (if c = '\'' then ['\'', '\''] else [c]) ++ writeSingleFrom indent false r

def writeSingle (indent : Nat) (cs : List Char) : List Char :=
  '\'' :: writeSingleFrom indent false cs ++ ['\'']

def hexDigit (d : Nat) : Char :=
  if d < 10 then Char.ofNat ('0'.toNat + d) else Char.ofNat ('A'.toNat + (d - 10))

/-- The last `width` hexadecimal digits of a number. -/
def hexDigits : Nat → Nat → List Char
  | 0, _ => []
  | width + 1, n => hexDigits width (n / 16) ++ [hexDigit (n % 16)]

/-- The letter of a character that has an escape of its own. -/
def escapeLetter? (n : Nat) : Option Char :=
  [(0x00, '0'), (0x07, 'a'), (0x08, 'b'), (0x09, 't'), (0x0A, 'n'), (0x0B, 'v'), (0x0C, 'f'),
    (0x0D, 'r'), (0x1B, 'e'), (0x22, '"'), (0x5C, '\\'), (0x85, 'N'), (0x2028, 'L'),
    (0x2029, 'P')].lookup n

/-- An escape by name, or by two, four or eight digits. -/
def escapeSequence (c : Char) : List Char :=
  match escapeLetter? c.toNat with
  | some letter => ['\\', letter]
  | none =>
    if c.toNat ≤ 0xFF then '\\' :: 'x' :: hexDigits 2 c.toNat
    else if c.toNat ≤ 0xFFFF then '\\' :: 'u' :: hexDigits 4 c.toNat
    else '\\' :: 'U' :: hexDigits 8 c.toNat

def needsEscape (c : Char) : Bool := !isPrintable c || isBreak c || c == '"' || c == '\\'

/-- A character between double quotes. -/
def writeChar (c : Char) : List Char := if needsEscape c then escapeSequence c else [c]

def writeDouble (cs : List Char) : List Char := '"' :: cs.flatMap writeChar ++ ['"']

/-! ### Reading -/

structure Result where
  text : List Char
  mark : Mark
  rest : List Char
  deriving DecidableEq, Repr

/-- The code point of a one-letter escape. -/
def escapedCode? (letter : Char) : Option Nat :=
  [('0', 0x00), ('a', 0x07), ('b', 0x08), ('t', 0x09), ('\t', 0x09), ('n', 0x0A), ('v', 0x0B),
    ('f', 0x0C), ('r', 0x0D), ('e', 0x1B), (' ', 0x20), ('"', 0x22), ('/', 0x2F), ('\\', 0x5C),
    ('N', 0x85), ('_', 0xA0), ('L', 0x2028), ('P', 0x2029)].lookup letter

/-- The number of digits behind the letter of a numeric escape. -/
def escapeWidth? (letter : Char) : Option Nat :=
  [('x', 2), ('u', 4), ('U', 8)].lookup letter

/-- The character of an escape behind its backslash, and the length of the escape. -/
def readEscape? : List Char → Option (Char × Nat)
  | [] => none
  | letter :: r =>
    match escapeWidth? letter with
    | none => (escapedCode? letter).map fun n => (Char.ofNat n, 1)
    | some width =>
      if r.length < width then none
      else match hexNumber? (r.take width) with
        | none => none
        | some n => if n.isValidChar then some (Char.ofNat n, 1 + width) else none

/-- Reads up to the closing quote, behind the characters `acc`, newest first, and
the white space `p`. -/
def read? (single : Bool) (m : Mark) (p : Pending) (acc cs : List Char) : Option Result :=
  match cs with
  | [] => none
  | c :: r =>
    if m.column = 0 ∧ isDocumentMarker (c :: r) then none
    else if isBlank c then read? single (m.after c) (p.addBlank c) acc r
    else if isBreak c then read? single (m.after c) (p.addBreak c) acc r
    else
      let acc := p.fold.reverse ++ acc
      if single then
        if c = '\'' then
          if r.head? = some '\'' then read? single (m.skip 2) .none ('\'' :: acc) (r.drop 1)
          else some ⟨acc.reverse, m.after c, r⟩
        else read? single (m.after c) .none (c :: acc) r
      else if c = '"' then some ⟨acc.reverse, m.after c, r⟩
      else if c = '\\' then
        if r.head?.any isBreak then
          read? single ((m.after c).after '\n') (.breaks none []) acc (r.drop 1)
        else match readEscape? r with
          | none => none
          | some (d, n) => read? single (m.skip (1 + n)) .none (d :: acc) (r.drop n)
      else read? single (m.after c) .none (c :: acc) r
termination_by cs.length
decreasing_by
  all_goals simp only [List.length_drop, List.length_cons]; omega

end AlertRules.Yaml.Quoted
