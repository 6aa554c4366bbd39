/-
AlertRules/Yaml/Scalar.lean

Writing a text as a scalar.  A text with a line feed is written as a literal, one
that would be taken for something else between single quotes, all others plainly;
where a style cannot show a text, single quotes and then double quotes take its
place.  A text as a key is written on one line if it can be.
-/
import AlertRules.Yaml.Plain
import AlertRules.Yaml.Quoted
import AlertRules.Yaml.Block
import AlertRules.Yaml.Typed

namespace AlertRules.Yaml.Scalar

inductive Style
  | plain | single | double | literal
  deriving DecidableEq, Repr

/-- Whether some character for which `p` holds stands right before one for which `q`
holds. -/
def hasPair (p q : Char → Bool) : List Char → Bool
  | a :: b :: r => (p a && q b) || hasPair p q (b :: r)
  | _ => false

def isSpace (c : Char) : Bool := c == ' '

/-- A break may not touch a space between single quotes. -/
def fitsSingle (cs : List Char) : Bool :=
  cs.all isPrintable && !hasPair isSpace isBreak cs && !hasPair isBreak isSpace cs

/-- A literal may not have a space before a break or at its end. -/
def fitsLiteral (cs : List Char) : Bool :=
  cs.all isPrintable && !hasPair isSpace isBreak cs && cs.getLast? != some ' '

def styleOf (cs : List Char) : Style :=
  if cs.contains '\n' then (if fitsLiteral cs then .literal else .double)
  else if !Typed.isTyped cs && Plain.isWritable cs then .plain
  else if fitsSingle cs then .single
  else .double

/-- A text in its style; `indent` is the indentation of further lines. -/
def write (indent : Nat) (cs : List Char) : List Char :=
  match styleOf cs with
  | .plain => cs
  | .single => Quoted.writeSingle indent cs
  | .double => Quoted.writeDouble cs
  | .literal => Block.write indent cs

/-- The break behind a scalar, unless it is a literal that ends in one. -/
def lineEnd (cs : List Char) : List Char :=
  if styleOf cs = .literal && cs.getLast?.any isBreak then [] else ['\n']

/-- The bytes of a text in UTF-8. -/
def utf8Length (cs : List Char) : Nat := cs.foldl (fun n c => n + c.utf8Size) 0

/-- Whether a text can be a key without a question mark: it has no break and at most
128 bytes. -/
def isSimpleKey (cs : List Char) : Bool := !cs.any isBreak && utf8Length cs ≤ 128

/-- A key and a text, as an entry of a mapping at a column; the indentation of the
first line is left to the mapping. -/
def writeEntry (column : Nat) (key value : List Char) : List Char :=
  if isSimpleKey key then
    write (column + 2) key ++ [':', ' '] ++ write (column + 2) value ++ lineEnd value
  else
    ['?', ' '] ++ write (column + 2) key ++ lineEnd key ++ List.replicate column ' ' ++
      [':', ' '] ++ write (column + 2) value ++ lineEnd value

end AlertRules.Yaml.Scalar
