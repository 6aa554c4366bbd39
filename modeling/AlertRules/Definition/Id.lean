/-
AlertRules/Definition/Id.lean

Identifiers of definitions: 128 bits, held as their thirty-two hexadecimal digits.
`render` writes the hyphenated form in lower case; `parse?` reads that form, the
bare digits, the form in braces and the form of a resource name, with letters of
either case.
-/

namespace AlertRules

@[ext] structure DefinitionId where
  digits : List (Fin 16)
  length_digits : digits.length = 32
  deriving DecidableEq, Repr

namespace DefinitionId

instance : Inhabited DefinitionId := ⟨⟨List.replicate 32 0, by decide⟩⟩

/-! ### Hexadecimal digits -/

/-- The digit in lower case. -/
def hexChar (d : Fin 16) : Char :=
  if d < 10 then Char.ofNat (0x30 + d.val) else Char.ofNat (0x57 + d.val)

/-- The value of a digit in either case. -/
def hexValue? (c : Char) : Option (Fin 16) :=
  let n := c.toNat
  if 0x30 ≤ n ∧ n ≤ 0x39 then some (Fin.ofNat 16 (n - 0x30))
  else if 0x41 ≤ n ∧ n ≤ 0x46 then some (Fin.ofNat 16 (n - 0x37))
  else if 0x61 ≤ n ∧ n ≤ 0x66 then some (Fin.ofNat 16 (n - 0x57))
  else none

theorem hexValue?_hexChar (d : Fin 16) : hexValue? (hexChar d) = some d := by
  revert d; decide

/-! ### Writing -/

/-- Puts hyphens after eight, twelve, sixteen and twenty characters. -/
def hyphenate (cs : List Char) : List Char :=
  cs.take 8 ++ '-' :: (cs.drop 8).take 4 ++ '-' :: (cs.drop 12).take 4 ++
    '-' :: (cs.drop 16).take 4 ++ '-' :: cs.drop 20

def render (id : DefinitionId) : String := String.ofList (hyphenate (id.digits.map hexChar))

/-! ### Reading -/

/-- Reads exactly thirty-two hexadecimal digits. -/
def ofDigits? (cs : List Char) : Option DefinitionId :=
  match cs.mapM hexValue? with
  | none => none
  | some ds => if h : ds.length = 32 then some ⟨ds, h⟩ else none

/-- Takes out the hyphens of the hyphenated form. -/
def dehyphenate? (cs : List Char) : Option (List Char) :=
  if cs.length = 36 ∧ [8, 13, 18, 23].all (fun i => cs[i]? = some '-') then
    some (cs.take 8 ++ (cs.drop 9).take 4 ++ (cs.drop 14).take 4 ++ (cs.drop 19).take 4 ++
      cs.drop 24)
  else none

def ofHyphenated? (cs : List Char) : Option DefinitionId := (dehyphenate? cs).bind ofDigits?

/-- What stands before the hyphenated form in a resource name. -/
def resourceScheme : List Char := "urn:uuid:".toList

/-- Reads an identifier in any of its four forms. -/
def parse? (s : String) : Option DefinitionId :=
  let cs := s.toList
  if cs.length = 32 then ofDigits? cs
  else if cs.length = 36 then ofHyphenated? cs
  else if cs.length = 38 then
    if cs.head? = some '{' ∧ cs.getLast? = some '}' then ofHyphenated? (cs.drop 1).dropLast
    else none
  else if cs.length = 45 then
    if (cs.take 9).map Char.toLower = resourceScheme then ofHyphenated? (cs.drop 9) else none
  else none

end DefinitionId

end AlertRules
