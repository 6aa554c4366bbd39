/-
AlertRules/Duration.lean

Lengths of time and their notation.  A length is a whole number of nanoseconds
with fewer than 2^64 seconds.  `Duration.render` writes the canonical spelling
(`1m30s`, `1.5ms`, `0s`), `Duration.parse` reads any spelling: a bare `0`, or
numbers each followed by a unit, in any order, as often as one likes.
`canonicalize` is reading followed by writing.

Fractions are cut to eighteen digits before they are scaled, and every sum and
product has to stay below 2^128: a reader that computes in words of that size
gives the same answers.
-/
import AlertRules.Text.Blank
import AlertRules.Text.Quoted
import AlertRules.Text.Decimal

namespace AlertRules

def nanosPerSecond : Nat := 1000000000

/-- The nanoseconds in 2^64 seconds. -/
def nanosBound : Nat := 18446744073709551616 * nanosPerSecond

/-- A length of time, below 2^64 seconds. -/
@[ext] structure Duration where
  nanos : Nat
  nanos_lt : nanos < nanosBound
  deriving DecidableEq, Repr

namespace Duration

def zero : Duration := ⟨0, by decide⟩

instance : Inhabited Duration := ⟨zero⟩

def ofSeconds (secs : UInt64) : Duration :=
  ⟨secs.toNat * nanosPerSecond, Nat.mul_lt_mul_of_pos_right secs.toNat_lt (by decide)⟩

/-- The whole seconds of a length. -/
def seconds (d : Duration) : Nat := d.nanos / nanosPerSecond

/-- What remains of a length beyond its whole seconds. -/
def subsecNanos (d : Duration) : Nat := d.nanos % nanosPerSecond

/-! ### Writing -/

/-- `value / 10 ^ places` as a decimal without zeros at the end of its fraction. -/
def fixedPoint (value places : Nat) : List Char :=
  let fraction := value % Nat.pow 10 places
  if fraction = 0 then Text.Decimal.digits (value / Nat.pow 10 places)
  else Text.Decimal.digits (value / Nat.pow 10 places) ++ '.' ::
    ((Text.Decimal.padded places fraction).reverse.dropWhile (· = '0')).reverse

/-- The characters of the canonical spelling: below a second in the largest unit
that leaves a whole part, from a second on in hours, minutes and seconds. -/
def spelling (d : Duration) : List Char :=
  let n := d.nanos
  if n = 0 then ['0', 's']
  else if n < 1000 then fixedPoint n 0 ++ ['n', 's']
  else if n < 1000000 then fixedPoint n 3 ++ ['µ', 's']
  else if n < nanosPerSecond then fixedPoint n 6 ++ ['m', 's']
  else
    let hours := d.seconds / 3600
    let minutes := d.seconds % 3600 / 60
    (if 0 < hours then Text.Decimal.digits hours ++ ['h'] else []) ++
    (if 0 < hours ∨ 0 < minutes then Text.Decimal.digits minutes ++ ['m'] else []) ++
    fixedPoint (d.seconds % 60 * nanosPerSecond + d.subsecNanos) 9 ++ ['s']

def render (d : Duration) : String := String.ofList d.spelling

def renderSeconds (secs : UInt64) : String := (ofSeconds secs).render

/-! ### Reading -/

/-- What is wrong with a text that is no duration. -/
inductive Fault
  | expectedNumber (rest : String)
  | missingUnit (number : String)
  | unknownUnit (unit : String)
  | badNumber (number : String)
  | overflow
  deriving DecidableEq, Repr

inductive Error
  | empty
  | invalid (input : String) (fault : Fault)
  deriving DecidableEq, Repr

def Fault.message : Fault → String
  | expectedNumber rest => "expected a number at " ++ Text.quote rest
  | missingUnit number => "missing unit after " ++ Text.quote number
  | unknownUnit unit => "unknown unit " ++ Text.quote unit
  | badNumber number => "bad number " ++ Text.quote number
  | overflow => "overflow"

def Error.message : Error → String
  | empty => "empty duration string"
  | invalid input fault => "invalid duration " ++ Text.quote input ++ ": " ++ fault.message

/-- The characters that numbers are made of; all others make up units. -/
def isNumberChar (c : Char) : Bool := c.isDigit || c == '.'

/-- Nanoseconds of a unit; micro may be written U+00B5 or U+03BC. -/
def unitNanos? (unit : List Char) : Option Nat :=
  match unit with
  | ['n', 's'] => some 1
  | ['u', 's'] => some 1000
  | ['\u00b5', 's'] => some 1000
  | ['\u03bc', 's'] => some 1000
  | ['m', 's'] => some 1000000
  | ['s'] => some nanosPerSecond
  | ['m'] => some (60 * nanosPerSecond)
  | ['h'] => some (3600 * nanosPerSecond)
  | ['d'] => some (86400 * nanosPerSecond)
  | ['w'] => some (7 * 86400 * nanosPerSecond)
  | ['y'] => some (365 * 86400 * nanosPerSecond)
  | _ => none

/-- The bound of every intermediate result. -/
def wordBound : Nat := Nat.pow 2 128

/-- `n` itself where it is below the bound. -/
def checked (n : Nat) : Option Nat := if n < wordBound then some n else none

/-- A number, its fraction cut to eighteen digits, times a unit in whole
nanoseconds. -/
def scaled? (number : List Char) (scale : Nat) : Option Nat := do
  let whole := number.takeWhile (· ≠ '.')
  let fraction := (number.dropWhile (· ≠ '.')).drop 1
  if whole.isEmpty && fraction.isEmpty || fraction.contains '.' then none
  let units ← checked (Text.Decimal.value whole)
  let base ← checked (units * scale)
  let cut := fraction.take 18
  checked (base + Text.Decimal.value cut * scale / Nat.pow 10 cut.length)

/-- The sum of the components that a text consists of, on top of `total`. -/
def sum (cs : List Char) (total : Nat) : Except Fault Nat :=
  match cs with
  | [] => .ok total
  | c :: r =>
    if isNumberChar c then
      let number := c :: r.takeWhile isNumberChar
      let tail := r.dropWhile isNumberChar
      let unit := tail.takeWhile fun c => !isNumberChar c
      if unit.isEmpty then .error (.missingUnit (String.ofList number))
      else match unitNanos? unit with
        | none => .error (.unknownUnit (String.ofList unit))
        | some scale =>
          match scaled? number scale with
          | none => .error (.badNumber (String.ofList number))
          | some n =>
            match checked (total + n) with
            | none => .error .overflow
            | some total => sum (tail.dropWhile fun c => !isNumberChar c) total
    else .error (.expectedNumber (String.ofList (c :: r)))
termination_by cs.length
decreasing_by
  have h1 := (List.dropWhile_sublist (l := r) isNumberChar).length_le
  have h2 := (List.dropWhile_sublist (l := r.dropWhile isNumberChar)
    fun c => !isNumberChar c).length_le
  simp only [List.length_cons]
  omega

/-- Reads a duration; white space around it does not matter. -/
def parse (input : String) : Except Error Duration :=
  let cs := Text.trim input.toList
  if cs = [] then .error .empty
  else if cs = ['0'] then .ok zero
  else match sum cs 0 with
    | .error fault => .error (.invalid input fault)
    | .ok nanos =>
      if h : nanos < nanosBound then .ok ⟨nanos, h⟩
      else .error (.invalid input .overflow)

/-- The canonical spelling of the length that a text denotes. -/
def canonicalize (input : String) : Except Error String := (parse input).map render

/-- The canonical spelling, with blank and zero both read as absent: `""`. -/
def normalize (value : String) : Except Error String :=
  let cs := Text.trim value.toList
  if cs = [] then .ok ""
  else match parse (String.ofList cs) with
    | .error e => .error e
    | .ok d => .ok (if d.nanos = 0 then "" else d.render)

end Duration

end AlertRules
