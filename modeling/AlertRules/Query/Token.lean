/-
AlertRules/Query/Token.lean

The tokens of a query.  Outside brackets a query is made of words, numbers,
strings and operators; inside `{ }` words are label names only, and inside `[ ]`
there are durations and colons.  `Token.scan` reads a whole query, or refuses it.

Each kind of lexeme is measured by a function that counts its characters, so the
rest of the query is what `drop` leaves.
-/

namespace AlertRules.Query

/-- Words with a meaning of their own, in any mixture of cases. -/
inductive Keyword
  | andOp | orOp | unlessOp | atan2
  | sum | avg | count | min | max | group | stddev | stdvar
  | topk | bottomk | countValues | quantile
  | offset | byLabels | without | on | ignoring | groupLeft | groupRight | bool
  | start | stop
  deriving DecidableEq, Repr

inductive Token
  | number (text : List Char)
  | duration (text : List Char)
  | string (text : List Char)
  /-- A word without a colon that is no keyword. -/
  | name (text : List Char)
  /-- A word with a colon. -/
  | series (text : List Char)
  | keyword (k : Keyword) (text : List Char)
  | add | sub | mul | div | mod | pow | atSign
  | eql | neq | lss | lte | gtr | gte
  | comma | openParen | closeParen | openBrace | closeBrace | openBracket | closeBracket
  | colon
  | assign | like | unlike
  deriving DecidableEq, Repr

def Keyword.ofWord? (word : List Char) : Option Keyword :=
  [("and".toList, andOp), ("or".toList, orOp), ("unless".toList, unlessOp),
    ("atan2".toList, atan2),
    ("sum".toList, sum), ("avg".toList, avg), ("count".toList, count), ("min".toList, min),
    ("max".toList, max), ("group".toList, group), ("stddev".toList, stddev),
    ("stdvar".toList, stdvar), ("topk".toList, topk), ("bottomk".toList, bottomk),
    ("count_values".toList, countValues), ("quantile".toList, quantile),
    ("offset".toList, offset), ("by".toList, byLabels), ("without".toList, without),
    ("on".toList, on), ("ignoring".toList, ignoring), ("group_left".toList, groupLeft),
    ("group_right".toList, groupRight), ("bool".toList, bool), ("start".toList, start),
    ("end".toList, stop)].lookup (word.map Char.toLower)

/-! ### Characters -/

def isSpace (c : Char) : Bool :=
  c == ' ' || c == '\t' || c == '\n' || c == '\r' || c == '\x0c'

def isLetter (c : Char) : Bool := c.isAlpha || c == '_'

def isLabelPart (c : Char) : Bool := c.isAlphanum || c == '_'

def isWordStart (c : Char) : Bool := isLetter c || c == ':'

def isWordPart (c : Char) : Bool := isLabelPart c || c == ':'

def isHexDigit (c : Char) : Bool :=
  c.isDigit || ('a' ≤ c && c ≤ 'f') || ('A' ≤ c && c ≤ 'F')

/-! ### Measuring lexemes -/

/-- The length of the longest run that a condition holds on. -/
def spanLength (p : Char → Bool) (cs : List Char) : Nat := (cs.takeWhile p).length

/-- Whether a number is hexadecimal, by its prefix. -/
def isHexNumber : List Char → Bool
  | '0' :: c :: _ => c == 'x' || c == 'X'
  | _ => false

/-- The length of a fraction, its point included. -/
def fractionLength (isPart : Char → Bool) : List Char → Nat
  | '.' :: r => 1 + spanLength isPart r
  | _ => 0

/-- The length of a sign. -/
def signLength : List Char → Nat
  | c :: _ => if c = '+' ∨ c = '-' then 1 else 0
  | [] => 0

/-- The length of an exponent, its letter and sign included. -/
def exponentLength : List Char → Nat
  | c :: r =>
    if c = 'e' ∨ c = 'E' then
      1 + signLength r + spanLength Char.isDigit (r.drop (signLength r))
    else 0
  | [] => 0

/-- The length of a number: digits, a fraction and an exponent, or with `0x` in
front hexadecimal digits for the first two. -/
def numberLength (cs : List Char) : Nat :=
  let isPart := if isHexNumber cs then isHexDigit else Char.isDigit
  let n := if isHexNumber cs then 2 else 0
  let n := n + spanLength isPart (cs.drop n)
  let n := n + fractionLength isPart (cs.drop n)
  n + exponentLength (cs.drop n)

/-- An `s` may follow each unit, as in `ms`. -/
def plural (cs : List Char) : Nat := if cs.head? == some 's' then 1 else 0

/-- The length of the further components of a duration, each digits and a unit;
none if something else follows that belongs to the word. -/
def componentsLength? (cs : List Char) : Option Nat :=
  match cs with
  | [] => some 0
  | c :: r =>
    if c.isDigit then
      let n := spanLength Char.isDigit r
      match _h : r.drop n with
      | [] => none
      | u :: r' =>
        if ['s', 'm', 'h', 'd', 'w'].contains u then
          (componentsLength? (r'.drop (plural r'))).map fun k => 1 + n + 1 + plural r' + k
        else none
    else if isLetter c then none
    else some 0
termination_by cs.length
decreasing_by
  have h := congrArg List.length _h
  simp only [List.length_drop, List.length_cons] at h ⊢
  omega

/-- The length of what turns a number into a duration. -/
def durationTail? (cs : List Char) : Option Nat :=
  match cs with
  | u :: r =>
    if ['s', 'm', 'h', 'd', 'w', 'y'].contains u then
      (componentsLength? (r.drop (plural r))).map fun k => 1 + plural r + k
    else none
  | [] => none

/-- The length of a string after its opening quote, the closing one included. -/
def stringLength? (quote : Char) : List Char → Option Nat
  | [] => none
  | '\\' :: c :: r =>
    if c = quote ∨ "abfnrtv\\01234567xuU".toList.contains c then
      (stringLength? quote r).map (· + 2)
    else none
  | c :: r => if c = quote then some 1 else (stringLength? quote r).map (· + 1)

/-! ### Reading tokens -/

/-- Which brackets surround the place that is read. -/
inductive Mode
  | outside
  | braces
  /-- Inside `[ ]`; whether a colon was seen. -/
  | brackets (colon : Bool)
  deriving DecidableEq, Repr

/-- A token, the mode after it, and how many more characters than one it has. -/
structure Lexeme where
  token : Token
  mode : Mode
  extra : Nat
  deriving DecidableEq, Repr

/-- A string token; the quotes are no part of its text. -/
def scanString? (mode : Mode) (quote : Char) (r : List Char) : Option Lexeme :=
  (stringLength? quote r).map fun n => ⟨.string (r.take (n - 1)), mode, n⟩

/-- A number, or a duration if a unit follows. -/
def scanNumber? (c : Char) (r : List Char) : Option Lexeme :=
  let cs := c :: r
  let n := numberLength cs
  let continues := (cs.drop n).head?.any fun c => isLabelPart c || c == '.'
  if continues then
    (durationTail? (cs.drop n)).map fun k => ⟨.duration (cs.take (n + k)), .outside, n + k - 1⟩
  else some ⟨.number (cs.take n), .outside, n - 1⟩

/-- A word: a number in letters, a keyword, a series name or a plain name. -/
def wordToken (word : List Char) : Token :=
  let lower := word.map Char.toLower
  if lower = "inf".toList ∨ lower = "nan".toList then .number word
  else match Keyword.ofWord? word with
    | some k => .keyword k word
    | none => if word.contains ':' then .series word else .name word

def scanOutside? (c : Char) (r : List Char) : Option Lexeme :=
  let single (t : Token) : Option Lexeme := some ⟨t, .outside, 0⟩
  let double (t : Token) : Option Lexeme := some ⟨t, .outside, 1⟩
  match c with
  | '@' => single .atSign
  | ',' => single .comma
  | '*' => single .mul
  | '/' => single .div
  | '%' => single .mod
  | '+' => single .add
  | '-' => single .sub
  | '^' => single .pow
  | '(' => single .openParen
  | ')' => single .closeParen
  | '{' => some ⟨.openBrace, .braces, 0⟩
  | '[' => some ⟨.openBracket, .brackets false, 0⟩
  | '=' =>
    match r.head? with
    | some '=' => double .eql
    | some '~' => none
    | _ => single .assign
  | '!' => if r.head? = some '=' then double .neq else none
  | '<' => if r.head? = some '=' then double .lte else single .lss
  | '>' => if r.head? = some '=' then double .gte else single .gtr
  | '"' => scanString? .outside '"' r
  | '\'' => scanString? .outside '\'' r
  | '`' => scanString? .outside '`' r
  | _ =>
    if c.isDigit then scanNumber? c r
    else if c = '.' then
      if r.head?.any Char.isDigit then scanNumber? c r else none
    else if isWordStart c then
      let n := spanLength isWordPart r
      some ⟨wordToken (c :: r.take n), .outside, n⟩
    else none

/-- Inside braces `or` is a word of its own only with a space behind it. -/
def scanBraces? (c : Char) (r : List Char) : Option Lexeme :=
  match c with
  | '}' => some ⟨.closeBrace, .outside, 0⟩
  | ',' => some ⟨.comma, .braces, 0⟩
  | '=' =>
    if r.head? = some '~' then some ⟨.like, .braces, 1⟩ else some ⟨.assign, .braces, 0⟩
  | '!' =>
    match r.head? with
    | some '=' => some ⟨.neq, .braces, 1⟩
    | some '~' => some ⟨.unlike, .braces, 1⟩
    | _ => none
  | '"' => scanString? .braces '"' r
  | '\'' => scanString? .braces '\'' r
  | '`' => scanString? .braces '`' r
  | _ =>
    if isLetter c then
      let n := spanLength isLabelPart r
      let word := c :: r.take n
      if word.map Char.toLower = "or".toList ∧ (r.drop n).head? = some ' ' then
        some ⟨.keyword .orOp word, .braces, n⟩
      else some ⟨.name word, .braces, n⟩
    else none

def scanBrackets? (colon : Bool) (c : Char) (r : List Char) : Option Lexeme :=
  match c with
  | ']' => some ⟨.closeBracket, .outside, 0⟩
  | ':' => if colon then none else some ⟨.colon, .brackets true, 0⟩
  | _ =>
    if c.isDigit then
      let cs := c :: r
      let n := numberLength cs
      (durationTail? (cs.drop n)).map fun k =>
        ⟨.duration (cs.take (n + k)), .brackets colon, n + k - 1⟩
    else none

def scanLexeme? (mode : Mode) (c : Char) (r : List Char) : Option Lexeme :=
  match mode with
  | .outside => scanOutside? c r
  | .braces => scanBraces? c r
  | .brackets colon => scanBrackets? colon c r

def isLineEnd (c : Char) : Bool := c == '\n' || c == '\r'

/-- The tokens of what is left of a query.  White space separates tokens, and
outside `[ ]` so does a comment, from `#` to the end of its line. -/
def scanFrom (mode : Mode) (cs : List Char) : Option (List Token) :=
  match cs with
  | [] => if mode = .outside then some [] else none
  | c :: r =>
    if isSpace c then scanFrom mode r
    else if c = '#' ∧ (mode = .outside ∨ mode = .braces) then
      scanFrom mode (r.drop (spanLength (fun c => !isLineEnd c) r))
    else match scanLexeme? mode c r with
      | none => none
      | some lexeme => (scanFrom lexeme.mode (r.drop lexeme.extra)).map (lexeme.token :: ·)
termination_by cs.length
decreasing_by
  all_goals simp only [List.length_drop, List.length_cons]; omega

def Token.scan (query : String) : Option (List Token) := scanFrom .outside query.toList

end AlertRules.Query
