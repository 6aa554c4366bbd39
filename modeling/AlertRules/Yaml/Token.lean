/-
AlertRules/Yaml/Token.lean

The tokens of a YAML document, and the lexemes that need no context: directives,
anchors and tags.  Each of these is measured, so what follows is what `drop`
leaves; none reaches over a line break.
-/
import AlertRules.Yaml.Char

namespace AlertRules.Yaml

inductive Token
  | version (major minor : Nat)
  | tagHandle (handle : List Char)
  | documentStart
  | documentEnd
  | blockSequenceStart
  | blockMappingStart
  | blockEnd
  | flowSequenceStart
  | flowSequenceEnd
  | flowMappingStart
  | flowMappingEnd
  | blockEntry
  | flowEntry
  | key
  | value
  | reference (name : List Char)
  | anchor (name : List Char)
  /-- A tag by its handle, which is empty for a tag written out in full. -/
  | tag (handle : List Char)
  | scalar (plain : Bool) (text : List Char)
  deriving DecidableEq, Repr

namespace Token

/-- A token and the number of characters that it takes. -/
structure Lexeme where
  token : Token
  length : Nat
  deriving DecidableEq, Repr

/-- The length of the longest run that a condition holds on. -/
def spanLength (p : Char → Bool) (cs : List Char) : Nat := (cs.takeWhile p).length

/-! ### Anchors and aliases -/

/-- Characters that may touch the end of an anchor. -/
def endsAnchor (cs : List Char) : Bool :=
  startsBlank cs ||
    cs.head?.any fun c => ['?', ':', ',', ']', '}', '%', '@', '`'].contains c

/-- The name behind `&` or `*`. -/
def anchorName? (cs : List Char) : Option (List Char) :=
  let n := spanLength isWordChar cs
  if n = 0 ∨ endsAnchor (cs.drop n) = false then none else some (cs.take n)

/-! ### Tags -/

/-- The octet of an escape `%hh`. -/
def octet? : List Char → Option Nat
  | '%' :: a :: b :: _ => hexNumber? [a, b]
  | _ => none

/-- The number of octets that a first octet announces. -/
def octetCount? (first : Nat) : Option Nat :=
  if first < 0x80 then some 1
  else if first &&& 0xE0 = 0xC0 then some 2
  else if first &&& 0xF0 = 0xE0 then some 3
  else if first &&& 0xF8 = 0xF0 then some 4
  else none

/-- Whether escapes of further octets follow. -/
def hasOctets : Nat → List Char → Bool
  | 0, _ => true
  | n + 1, cs => (octet? cs).any (· &&& 0xC0 == 0x80) && hasOctets n (cs.drop 3)

/-- The length of an escaped character. -/
def escapeLength? (cs : List Char) : Option Nat := do
  let first ← octet? cs
  let n ← octetCount? first
  if hasOctets (n - 1) (cs.drop 3) then some (3 * n) else none

/-- Characters of a tag; those of a verbatim one include commas and brackets. -/
def isTagChar (verbatim : Bool) (c : Char) : Bool :=
  isWordChar c ||
    [';', '/', '?', ':', '@', '&', '=', '+', '$', '.', '!', '~', '*', '\'', '(', ')'].contains c ||
    (verbatim && [',', '[', ']'].contains c)

/-- The length of the tag characters and escapes that come next. -/
def tagLength? (verbatim : Bool) (cs : List Char) : Option Nat :=
  match cs with
  | [] => some 0
  | c :: r =>
    if c = '%' then
      match escapeLength? (c :: r) with
      | none => none
      | some n => (tagLength? verbatim (r.drop (n - 1))).map (1 + (n - 1) + ·)
    else if isTagChar verbatim c then (tagLength? verbatim r).map (1 + ·)
    else some 0
termination_by cs.length
decreasing_by all_goals simp only [List.length_drop, List.length_cons]; omega

/-- A tag behind its exclamation mark: verbatim between angle brackets, with a
handle of its own, or with the handle `!`.  In a flow collection a comma may touch
its end, elsewhere white space has to follow. -/
def tag? (flow : Bool) (cs : List Char) : Option Lexeme := do
  let lexeme ← match cs with
    | '<' :: r => do
      let n ← tagLength? true r
      if n = 0 ∨ (r.drop n).head? ≠ some '>' then none
      some ⟨.tag [], n + 2⟩
    | _ => do
      let n := spanLength isWordChar cs
      if (cs.drop n).head? = some '!' then
        let k ← tagLength? false (cs.drop (n + 1))
        if k = 0 then none else some ⟨.tag ('!' :: cs.take n ++ ['!']), n + 1 + k⟩
      else
        let k ← tagLength? false (cs.drop n)
        some ⟨.tag (if n + k = 0 then [] else ['!']), n + k⟩
  let rest := cs.drop lexeme.length
  if startsBlank rest ∨ (flow = true ∧ rest.head? = some ',') then some lexeme else none

/-! ### Directives -/

/-- A number of at most nine digits, and its length. -/
def versionNumber? (cs : List Char) : Option (Nat × Nat) :=
  let n := spanLength Char.isDigit cs
  if n = 0 ∨ 9 < n then none
  else some ((cs.take n).foldl (fun v c => 10 * v + (c.toNat - '0'.toNat)) 0, n)

def version? (cs : List Char) : Option Lexeme := do
  let (major, n) ← versionNumber? cs
  match cs.drop n with
  | '.' :: r =>
    let (minor, k) ← versionNumber? r
    return ⟨.version major minor, n + 1 + k⟩
  | _ => none

/-- A handle, white space, and the text that it stands for. -/
def tagDirective? (cs : List Char) : Option Lexeme := do
  match cs with
  | '!' :: r =>
    let n := spanLength isWordChar r
    let closed := (r.drop n).head? == some '!'
    if n ≠ 0 && !closed then none
    let n := if closed then n + 1 else n
    let r := r.drop n
    let blanks := spanLength isBlank r
    if blanks = 0 then none
    let k ← tagLength? true (r.drop blanks)
    if k = 0 ∨ startsBlank (r.drop (blanks + k)) = false then none
    return ⟨.tagHandle (cs.take (1 + n)), 1 + n + blanks + k⟩
  | _ => none

/-- A directive behind its percent sign, up to the end of its line or a comment. -/
def directive? (cs : List Char) : Option Lexeme := do
  let n := spanLength isWordChar cs
  let name := cs.take n
  if startsBlank (cs.drop n) = false then none
  let n := n + spanLength isBlank (cs.drop n)
  let lexeme ←
    if name = "YAML".toList then version? (cs.drop n)
    else if name = "TAG".toList then tagDirective? (cs.drop n)
    else none
  let n := n + lexeme.length
  let n := n + spanLength isBlank (cs.drop n)
  if (cs.drop n).head?.all fun c => c == '#' || isBreak c then some ⟨lexeme.token, n⟩ else none

end Token

end AlertRules.Yaml
