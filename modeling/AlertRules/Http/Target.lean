/-
AlertRules/Http/Target.lean

The target of a request: the path and the query of an address as they are sent.
An address is read as the living standard for URLs reads one of the schemes `http`
and `https`: tabs and line breaks in it do not count, a backslash is a slash,
segments of dots are resolved, the fragment is dropped, and what may not stand in
a target is percent-encoded.
-/
import AlertRules.Text.Decimal

namespace AlertRules.Http

/-! ### Percent encoding -/

def upperHexDigit (n : Nat) : Char :=
  if n < 10 then Char.ofNat (0x30 + n) else Char.ofNat (0x37 + n)

def percentByte (b : UInt8) : List Char :=
  ['%', upperHexDigit (b.toNat / 16), upperHexDigit (b.toNat % 16)]

def utf8Bytes (c : Char) : List UInt8 := (String.singleton c).toUTF8.toList

/-- Characters that are encoded wherever they stand. -/
def isNeverSent (c : Char) : Bool :=
  c.toNat ≤ 0x20 || 0x7F ≤ c.toNat || c == '"' || c == '<' || c == '>'

def isEncodedInPath (c : Char) : Bool :=
  isNeverSent c || c == '#' || c == '?' || c.toNat == 0x60 || c == '{' || c == '}'

def isEncodedInQuery (c : Char) : Bool := isNeverSent c || c == '#' || c == '\''

def percentEncode (encoded : Char → Bool) (cs : List Char) : List Char :=
  cs.flatMap fun c => if encoded c then (utf8Bytes c).flatMap percentByte else [c]

/-! ### Paths -/

/-- A segment with dots written as dots. -/
def plainDots : List Char → List Char
  | '%' :: '2' :: c :: r => if c = 'e' ∨ c = 'E' then '.' :: plainDots r else '%' :: '2' :: c :: r
  | '.' :: r => '.' :: plainDots r
  | cs => cs

def isSingleDot (segment : List Char) : Bool := plainDots segment == ['.']

def isDoubleDot (segment : List Char) : Bool := plainDots segment == ['.', '.']

/-- Resolves segments of dots; `before` are the segments so far, the latest first.
At the end of a path such a segment leaves an empty one. -/
def resolveDots (before : List (List Char)) : List (List Char) → List (List Char)
  | [] => before.reverse
  | [last] =>
    if isDoubleDot last then ([] :: before.tail).reverse
    else if isSingleDot last then ([] :: before).reverse
    else (last :: before).reverse
  | segment :: more =>
    if isDoubleDot segment then resolveDots before.tail more
    else if isSingleDot segment then resolveDots before more
    else resolveDots (segment :: before) more

def isSlash (c : Char) : Bool := c == '/' || c == '\\'

/-- The segments between slashes. -/
def segments : List Char → List (List Char)
  | [] => [[]]
  | c :: r =>
    if isSlash c then [] :: segments r
    else match segments r with
      | [] => [[c]]
      | segment :: more => (c :: segment) :: more

/-- The path as it is sent; it begins with a slash, whether that is written or not. -/
def encodePath (cs : List Char) : List Char :=
  let cs := match cs with
    | c :: r => if isSlash c then r else c :: r
    | [] => []
  (resolveDots [] ((segments cs).map (percentEncode isEncodedInPath))).flatMap ('/' :: ·)

/-! ### Addresses -/

def isPathStart (c : Char) : Bool := isSlash c || c == '?' || c == '#'

def isSchemeChar (c : Char) : Bool := c.isAlphanum || c == '+' || c == '-' || c == '.'

/-- Characters that no host may have. -/
def isForbiddenInHost (c : Char) : Bool :=
  c.toNat ≤ 0x20 || c.toNat = 0x7F || ['%', '<', '>', '[', ']', '^', '|', '@'].contains c

/-- Whether a port is absent or a number of sixteen bits. -/
def isPort (cs : List Char) : Bool :=
  cs.all Char.isDigit && Text.Decimal.value cs < Nat.pow 2 16

/-- Whether there is a host, and nothing else than a port behind it. -/
def isHostAndPort (cs : List Char) : Bool :=
  let host := cs.takeWhile (· ≠ ':')
  !host.isEmpty && !host.any isForbiddenInHost && isPort ((cs.dropWhile (· ≠ ':')).drop 1)

/-- What follows the last `@` of an authority. -/
def afterUser (cs : List Char) : List Char := (cs.reverse.takeWhile (· ≠ '@')).reverse

/-- A text without what an address does not count: white space and controls around
it, tabs and line breaks anywhere. -/
def addressChars (s : String) : List Char :=
  let isOuter (c : Char) : Bool := c.toNat ≤ 0x20
  (((s.toList.dropWhile isOuter).reverse.dropWhile isOuter).reverse).filter fun c =>
    !(c == '\t' || c == '\n' || c == '\r')

/-- The target for an address, if requests can be sent there. -/
def target? (address : String) : Option String :=
  let cs := addressChars address
  let scheme := (cs.takeWhile isSchemeChar).map Char.toLower
  match cs.dropWhile isSchemeChar with
  | ':' :: rest =>
    let rest := rest.dropWhile isSlash
    let authority := rest.takeWhile fun c => !isPathStart c
    let rest := (rest.dropWhile fun c => !isPathStart c).takeWhile (· ≠ '#')
    if (scheme = "http".toList ∨ scheme = "https".toList) ∧
        isHostAndPort (afterUser authority) = true then
      let path := encodePath (rest.takeWhile (· ≠ '?'))
      let query := percentEncode isEncodedInQuery ((rest.dropWhile (· ≠ '?')).drop 1)
      some (String.ofList (path ++ if rest.contains '?' then '?' :: query else []))
    else none
  | _ => none

end AlertRules.Http
