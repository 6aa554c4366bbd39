/-
AlertRules/Query/Number.lean

Number literals and durations inside a query.  A number is decimal, hexadecimal
(`0x`) or octal (a leading zero, and nothing in it that only a decimal number
can have).  A duration is a sequence of components from years down to
milliseconds, none twice, with a positive total.
-/
import AlertRules.Text.Scientific
import AlertRules.Query.Token

namespace AlertRules.Query

open Text

/-- How large a number is: beyond double precision it is infinite, and a number
that rounds to zero is zero. -/
inductive Magnitude
  | nan
  | infinite
  | finite (value : Scientific)
  deriving DecidableEq, Repr

structure Number where
  negative : Bool
  magnitude : Magnitude
  deriving DecidableEq, Repr

namespace Number

def ofScientific (n : Scientific) : Number :=
  match n.range with
  | .zero => ⟨false, .finite ⟨0, 0⟩⟩
  | .finite => ⟨false, .finite n⟩
  | .infinite => ⟨false, .infinite⟩

def ofNat (n : Nat) : Number := ofScientific ⟨n, 0⟩

/-- The number that digits of a base stand for, below 2^63. -/
def readBase? (base : Nat) (digitValue? : Char → Option Nat) (cs : List Char) : Option Number :=
  if cs.isEmpty then none
  else do
    let digits ← cs.mapM digitValue?
    let n := digits.foldl (fun n d => base * n + d) 0
    if n < Nat.pow 2 63 then some (ofNat n) else none

def hexDigitValue? (c : Char) : Option Nat :=
  if c.isDigit then some (Decimal.digitValue c)
  else if 'a' ≤ c && c ≤ 'f' then some (c.toNat - 'a'.toNat + 10)
  else none

def octalDigitValue? (c : Char) : Option Nat :=
  if '0' ≤ c && c ≤ '7' then some (Decimal.digitValue c) else none

/-- Reads a number literal. -/
def read? (text : List Char) : Option Number :=
  let lower := text.map Char.toLower
  if lower = "inf".toList then some ⟨false, .infinite⟩
  else if lower = "nan".toList then some ⟨false, .nan⟩
  else match lower with
    | '0' :: 'x' :: digits => readBase? 16 hexDigitValue? digits
    | '0' :: c :: r =>
      if (c :: r).any fun c => c == '.' || c == '8' || c == '9' then
        (Scientific.read? lower).map ofScientific
      else readBase? 8 octalDigitValue? lower
    | _ => (Scientific.read? lower).map ofScientific

def neg (n : Number) : Number := ⟨!n.negative, n.magnitude⟩

def isFinite (n : Number) : Bool :=
  match n.magnitude with
  | .finite _ => true
  | _ => false

/-- Zero or below. -/
def nonPositive (n : Number) : Bool :=
  match n.magnitude with
  | .nan => false
  | .infinite => n.negative
  | .finite v => n.negative || v.mantissa == 0

end Number

/-! ### Durations -/

/-- The units of a duration in the order in which they may occur, with their
milliseconds. -/
def durationUnits : List (List Char × Nat) :=
  [(['y'], 31536000000), (['w'], 604800000), (['d'], 86400000), (['h'], 3600000),
    (['m'], 60000), (['s'], 1000), (['m', 's'], 1)]

/-- Reads components whose units are among `units`, in this order; a count that
does not fit 32 bits counts as zero. -/
def readComponents? (units : List (List Char × Nat)) (cs : List Char) : Option Nat :=
  match units with
  | [] => if cs.isEmpty then some 0 else none
  | (unit, size) :: more =>
    let digits := cs.takeWhile Char.isDigit
    let tail := cs.dropWhile Char.isDigit
    if !digits.isEmpty && (tail.takeWhile fun c => !c.isDigit) == unit then
      let n := Decimal.value digits
      (readComponents? more (tail.dropWhile fun c => !c.isDigit)).map fun total =>
        (if n < Nat.pow 2 32 then n * size else 0) + total
    else readComponents? more cs

/-- The milliseconds of a duration, if there are any. -/
def readDuration? (text : List Char) : Option Nat :=
  (readComponents? durationUnits text).filter (0 < ·)

end AlertRules.Query
