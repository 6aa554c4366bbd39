/-
AlertRules/Yaml/Fold.lean

White space inside a plain or quoted scalar.  Blanks between words stay.  Where a
line ends, the blanks around the break go, one line feed becomes a space, and of
several the first goes; line and paragraph separators always stay.
-/
import AlertRules.Yaml.Char

namespace AlertRules.Yaml

/-- The white space read since the last other character, newest first. -/
inductive Pending
  | blanks (cs : List Char)
  /-- The first break, unless it was escaped, and the further ones. -/
  | breaks (first : Option Char) (more : List Char)
  deriving DecidableEq, Repr

namespace Pending

def none : Pending := blanks []

/-- One more blank. -/
def addBlank (c : Char) : Pending → Pending
  | blanks cs => blanks (c :: cs)
  | breaks first more => breaks first more

/-- One more break. -/
def addBreak (c : Char) : Pending → Pending
  | blanks _ => breaks (some c) []
  | breaks first more => breaks first (c :: more)

def isBreaks : Pending → Bool
  | blanks _ => false
  | breaks _ _ => true

def isEmpty : Pending → Bool
  | blanks cs => cs.isEmpty
  | breaks _ _ => false

/-- What white space contributes to the text of the scalar. -/
def fold : Pending → List Char
  | blanks cs => cs.reverse
  | breaks (some '\n') [] => [' ']
  | breaks (some '\n') more => more.reverse
  | breaks first more => first.toList ++ more.reverse

end Pending

/-- Whether a document marker stands here, `---` or `...` with a blank, a break or
the end behind it. -/
def isDocumentMarker : List Char → Bool
  | a :: b :: c :: r => (a == '-' || a == '.') && b == a && c == a && startsBlank r
  | _ => false

end AlertRules.Yaml
