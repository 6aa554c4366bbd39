/-
AlertRules/Text/Decimal.lean

Natural numbers in decimal: `digits` writes one without superfluous zeros,
`value` reads a run of digits, and reading undoes writing (`value_digits`).
-/

namespace AlertRules.Text.Decimal

def digitChar (d : Nat) : Char := Char.ofNat (0x30 + d)

def digitValue (c : Char) : Nat := c.toNat - 0x30

/-- The decimal digits of a number, most significant first. -/
def digits (n : Nat) : List Char :=
  if n < 10 then [digitChar n] else digits (n / 10) ++ [digitChar (n % 10)]
termination_by n
decreasing_by omega

/-- The number that a run of digits stands for. -/
def value (cs : List Char) : Nat := cs.foldl (fun n c => 10 * n + digitValue c) 0

/-- The digits of a number, filled up with zeros on the left to a width. -/
def padded (width n : Nat) : List Char :=
  List.replicate (width - (digits n).length) '0' ++ digits n

def text (n : Nat) : String := String.ofList (digits n)

/-- The decimal text of an integer, with a minus sign where it is negative. -/
def intText (n : Int) : String :=
  if n < 0 then "-" ++ text n.natAbs else text n.natAbs

/-! ### Reading numbers -/

/-- Reads a non-empty run of ASCII digits. -/
def read? (cs : List Char) : Option Nat :=
  if !cs.isEmpty && cs.all Char.isDigit then some (value cs) else none

/-- Reads a number below a bound; one plus sign may stand before the digits. -/
def readBelow? (bound : Nat) (cs : List Char) : Option Nat :=
  let unsigned := match cs with
    | '+' :: r => r
    | r => r
  (read? unsigned).filter (· < bound)

def readUInt64? (s : String) : Option UInt64 :=
  (readBelow? (Nat.pow 2 64) s.toList).map UInt64.ofNat

/-- Reads a signed 64-bit integer; one plus or minus sign may stand first. -/
def readInt64? (s : String) : Option Int64 :=
  match s.toList with
  | '-' :: r => ((read? r).filter (· ≤ Nat.pow 2 63)).map fun n => Int64.ofInt (-(n : Int))
  | cs => (readBelow? (Nat.pow 2 63) cs).map fun n => Int64.ofInt n

/-! ### Reading undoes writing -/

theorem digitValue_digitChar {d : Nat} (h : d < 10) : digitValue (digitChar d) = d := by
  have : ∀ d < 10, digitValue (digitChar d) = d := by decide
  exact this d h

theorem isDigit_digitChar {d : Nat} (h : d < 10) : (digitChar d).isDigit = true := by
  have : ∀ d < 10, (digitChar d).isDigit = true := by decide
  exact this d h

theorem value_append_singleton (cs : List Char) (c : Char) :
    value (cs ++ [c]) = 10 * value cs + digitValue c := by
  simp [value]

theorem value_digits (n : Nat) : value (digits n) = n := by
  induction n using digits.induct with
  | case1 n h => rw [digits, if_pos h]; simp [value, digitValue_digitChar h]
  | case2 n h ih =>
    rw [digits, if_neg h, value_append_singleton, ih,
      digitValue_digitChar (Nat.mod_lt _ (by decide))]
    omega

theorem digits_ne_nil (n : Nat) : digits n ≠ [] := by
  rw [digits]; split <;> simp

theorem all_isDigit_digits (n : Nat) : (digits n).all Char.isDigit = true := by
  induction n using digits.induct with
  | case1 n h => rw [digits, if_pos h]; simp [isDigit_digitChar h]
  | case2 n h ih =>
    rw [digits, if_neg h, List.all_append, ih]
    simp [isDigit_digitChar (Nat.mod_lt n (by decide : 10 > 0))]

end AlertRules.Text.Decimal
