/-
AlertRules/Text/Scientific.lean

Decimal numbers with a fraction and an exponent, and where they fall in double
precision.  Only the ends of the range matter here: a number whose nearest
double is infinite counts as infinite, one whose nearest double is zero as zero.
The two bounds are 2^1024 - 2^970, from which on rounding gives infinity, and
2^(-1075), up to which it gives zero.
-/
import AlertRules.Text.Decimal

namespace AlertRules.Text

/-- The number `mantissa * 10 ^ exponent`. -/
structure Scientific where
  mantissa : Nat
  exponent : Int
  deriving DecidableEq, Repr

namespace Scientific

/-- Where a number falls in double precision. -/
inductive Range
  | zero
  | finite
  | infinite
  deriving DecidableEq, Repr

/-- Reads an exponent: a sign or none, and at least one digit. -/
def readExponent? : List Char → Option Int
  | '+' :: r => (Decimal.read? r).map Int.ofNat
  | '-' :: r => (Decimal.read? r).map fun n => -(n : Int)
  | r => (Decimal.read? r).map Int.ofNat

/-- Reads `12`, `1.5`, `1.`, `.5` or one of these with an exponent. -/
def read? (cs : List Char) : Option Scientific := do
  let isExponentMark (c : Char) : Bool := c == 'e' || c == 'E'
  let base := cs.takeWhile fun c => !isExponentMark c
  let whole := base.takeWhile (· ≠ '.')
  let fraction := (base.dropWhile (· ≠ '.')).drop 1
  if whole.isEmpty && fraction.isEmpty then none
  if !(whole.all Char.isDigit && fraction.all Char.isDigit) then none
  let shift ← match cs.dropWhile fun c => !isExponentMark c with
    | [] => some 0
    | _ :: r => readExponent? r
  return ⟨Decimal.value (whole ++ fraction), shift - fraction.length⟩

/-- Far outside the range the number of digits decides; near it the exact value. -/
def range (n : Scientific) : Range :=
  if n.mantissa = 0 then .zero
  else
    let magnitude := (Decimal.digits n.mantissa).length + n.exponent
    if 310 ≤ magnitude then .infinite
    else if magnitude ≤ -324 then .zero
    else
      let numerator := n.mantissa * Nat.pow 10 n.exponent.toNat
      let denominator := Nat.pow 10 (-n.exponent).toNat
      if (Nat.pow 2 1024 - Nat.pow 2 970) * denominator ≤ numerator then .infinite
      else if numerator * Nat.pow 2 1075 ≤ denominator then .zero
      else .finite

end Scientific

end AlertRules.Text
