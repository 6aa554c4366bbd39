/-
AlertRules/Query.lean

Query texts.  A text is a query if it has a syntax tree and the tree keeps the
rules on types.  `disable` makes a query that yields nothing: it appends a clause
that no sample passes, without reading the text again.
-/
import AlertRules.Query.Grammar
import AlertRules.Query.Typing

namespace AlertRules.Query

/-- The syntax tree of a query text. -/
def parse? (text : String) : Option Expr := do
  let e ← Expr.ofTokens? (← Token.scan text)
  if e.isWellTyped then some e else none

def isValid (text : String) : Bool := (parse? text).isSome

/-- The clause that a disabled query ends in. -/
def disabledClause : String := " and false"

def disable (text : String) : String := text ++ disabledClause

end AlertRules.Query
