/-
AlertRules/Yaml/Typed.lean

Texts that stand for something else when they are written without quotes: null,
a truth value or a number.  A writer quotes them.
-/
import AlertRules.Text.Scientific

namespace AlertRules.Yaml.Typed

def isNull (cs : List Char) : Bool :=
  cs.isEmpty || ["null", "Null", "NULL", "~"].any fun s => cs == s.toList

def isTruth (cs : List Char) : Bool :=
  ["true", "True", "TRUE", "false", "False", "FALSE"].any fun s => cs == s.toList

def dropSign (cs : List Char) : List Char :=
  match cs with
  | '+' :: r => r
  | '-' :: r => r
  | _ => cs

/-- Digits with a superfluous zero in front are no number, and are quoted all the
same. -/
def isPaddedDigits (cs : List Char) : Bool :=
  match dropSign cs with
  | '0' :: c :: r => (c :: r).all Char.isDigit
  | _ => false

def digitValue? (base : Nat) (c : Char) : Option Nat :=
  let n :=
    if c.isDigit then c.toNat - '0'.toNat
    else if 'a' ≤ c && c ≤ 'f' then c.toNat - 'a'.toNat + 10
    else if 'A' ≤ c && c ≤ 'F' then c.toNat - 'A'.toNat + 10
    else base
  if n < base then some n else none

/-- The number that digits of a base stand for. -/
def readBase? (base : Nat) (cs : List Char) : Option Nat :=
  if cs.isEmpty then none
  else (cs.mapM (digitValue? base)).map fun ds => ds.foldl (fun n d => base * n + d) 0

/-- The magnitude of an integer that is not decimal, by its prefix. -/
def prefixed? (cs : List Char) : Option Nat :=
  match cs with
  | '0' :: 'x' :: r => readBase? 16 r
  | '0' :: 'o' :: r => readBase? 8 r
  | '0' :: 'b' :: r => readBase? 2 r
  | _ => none

/-- Integers with a prefix, of at most 128 bits. -/
def isPrefixedInteger (cs : List Char) : Bool :=
  match cs with
  | '+' :: r => (prefixed? r).any (· < Nat.pow 2 128)
  | '-' :: r => (prefixed? r).any (· ≤ Nat.pow 2 127)
  | _ => (prefixed? cs).any (· < Nat.pow 2 128)

/-- Infinities and the text that is no number. -/
def isSpecialNumber (cs : List Char) : Bool :=
  let isInfinity (cs : List Char) : Bool :=
    [".inf", ".Inf", ".INF"].any fun s => cs == s.toList
  [".nan", ".NaN", ".NAN"].any (fun s => cs == s.toList) || isInfinity (dropSign cs)

/-- Decimal numbers that double precision can hold. -/
def isDecimal (cs : List Char) : Bool :=
  (Text.Scientific.read? (dropSign cs)).any fun n => n.range != .infinite

/-- Whether a text without quotes stands for something else. -/
def isTyped (cs : List Char) : Bool :=
  isNull cs || isTruth cs || isPaddedDigits cs || isPrefixedInteger cs || isSpecialNumber cs ||
    isDecimal cs

end AlertRules.Yaml.Typed
