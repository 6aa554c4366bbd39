/-
AlertRules/Yaml/Node.lean

The tree of a YAML document.  A scalar keeps the text that it was written with; an
alias keeps the number of the anchor that it refers to, and is looked up only where
its node is wanted.  `Document.read?` reads a text that holds exactly one document.

Anchors are numbered by how many names have been anchored before them, so a name
that is anchored again may share its number with the next new name; of nodes with
one number the last in the text counts.

Nothing limits how often aliases are followed.  Documents in which they are followed
more than a hundred times as often as the document has events are out of scope: a
reader that guards against them gives up there (repetition limit exceeded).
-/
import AlertRules.Yaml.Token.Lexer

namespace AlertRules.Yaml

inductive Node
  | scalar (anchor : Option Nat) (plain : Bool) (text : List Char)
  | reference (number : Nat)
  | sequence (anchor : Option Nat) (items : List Node)
  | mapping (anchor : Option Nat) (entries : List (Node × Node))
  deriving Repr, Inhabited

/-- A document: its root and the nodes with anchors by their numbers, the last in
the text first. -/
structure Document where
  root : Node
  anchors : List (Nat × Node)
  deriving Repr

namespace Node

/-- The node of an empty place. -/
def empty (anchor : Option Nat) : Node := scalar anchor true []

/-! ### Anchors -/

/-- The entry of a node that has an anchor. -/
def mark? (anchor : Option Nat) (n : Node) : List (Nat × Node) :=
  (anchor.map fun a => (a, n)).toList

mutual

/-- The anchored nodes of a tree, in the order in which they start. -/
def anchored : Node → List (Nat × Node)
  | scalar a p t => mark? a (scalar a p t)
  | reference _ => []
  | sequence a items => mark? a (sequence a items) ++ anchoredItems items
  | mapping a entries => mark? a (mapping a entries) ++ anchoredEntries entries

def anchoredItems : List Node → List (Nat × Node)
  | [] => []
  | n :: ns => n.anchored ++ anchoredItems ns

def anchoredEntries : List (Node × Node) → List (Nat × Node)
  | [] => []
  | (k, v) :: es => k.anchored ++ (v.anchored ++ anchoredEntries es)

end

/-- The node that an alias refers to; every other node is itself. -/
def resolve (anchors : List (Nat × Node)) : Node → Option Node
  | reference k => anchors.lookup k
  | n => some n

/-! ### Reading tokens -/

/-- What is left to read, and the numbers of the names anchored so far. -/
structure Input where
  tokens : List Token
  names : List (List Char × Nat) := []
  deriving Repr

/-- Numbers an anchored name. -/
def Input.define (i : Input) : Option (List Char) → Option Nat × Input
  | none => (none, i)
  | some name =>
    let number := i.names.length
    (some number, { i with names := (name, number) :: i.names.filter fun e => e.1 ≠ name })

/-- Whether a tag's handle is known: the two that always are, or a declared one. -/
def knowsHandle (handles : List (List Char)) (handle : List Char) : Bool :=
  handle.isEmpty || handle == ['!'] || handle == ['!', '!'] || handles.contains handle

/-- The anchor of a node, whether it has a tag, and what follows; the two come in
either order. -/
def properties? (handles : List (List Char)) :
    List Token → Option (Option (List Char) × Bool × List Token)
  | .anchor a :: .tag h :: r | .tag h :: .anchor a :: r =>
    if knowsHandle handles h then some (some a, true, r) else none
  | .anchor a :: r => some (some a, false, r)
  | .tag h :: r => if knowsHandle handles h then some (none, true, r) else none
  | ts => some (none, false, ts)

/-- Which nodes may stand at a place. -/
inductive Place
  /-- Block and flow nodes. -/
  | block
  /-- These, and a sequence that is not indented. -/
  | entry
  /-- Flow nodes only. -/
  | flow
  deriving DecidableEq, Repr

/-- Whether the node at a place inside a block collection is left out. -/
def isLeftOut : List Token → Bool
  | .key :: _ | .value :: _ | .blockEntry :: _ | .blockEnd :: _ => true
  | _ => false

/-- The comma between two items; none stands before the first. -/
def separated? (first : Bool) (i : Input) : Option Input :=
  if first then some i
  else match i.tokens with
    | .flowEntry :: r => some { i with tokens := r }
    | _ => none

mutual

/-- One node. -/
def read? (handles : List (List Char)) : Nat → Place → Input → Option (Node × Input)
  | 0, _, _ => none
  | _ + 1, _, ⟨.reference name :: r, names⟩ =>
    (names.lookup name).map fun number => (reference number, ⟨r, names⟩)
  | fuel + 1, place, i => do
    let (name, tagged, r) ← properties? handles i.tokens
    let (anchor, i) := { i with tokens := r }.define name
    match i.tokens with
    | .scalar plain text :: r => return (scalar anchor plain text, { i with tokens := r })
    | .flowSequenceStart :: r =>
      let (items, i) ← flowItems? handles fuel true { i with tokens := r }
      return (sequence anchor items, i)
    | .flowMappingStart :: r =>
      let (entries, i) ← flowEntries? handles fuel true { i with tokens := r }
      return (mapping anchor entries, i)
    | .blockSequenceStart :: r =>
      if place = .flow then none
      let (items, i) ← blockItems? handles fuel { i with tokens := r }
      return (sequence anchor items, i)
    | .blockMappingStart :: r =>
      if place = .flow then none
      let (entries, i) ← blockEntries? handles fuel { i with tokens := r }
      return (mapping anchor entries, i)
    | .blockEntry :: _ =>
      if place = .entry then
        let (items, i) ← plainItems? handles fuel i
        return (sequence anchor items, i)
      else if anchor.isSome || tagged then return (empty anchor, i)
      else none
    | _ => if anchor.isSome || tagged then return (empty anchor, i) else none

/-- The items of a block sequence up to its end. -/
def blockItems? (handles : List (List Char)) : Nat → Input → Option (List Node × Input)
  | 0, _ => none
  | _ + 1, ⟨.blockEnd :: r, names⟩ => some ([], ⟨r, names⟩)
  | fuel + 1, ⟨.blockEntry :: r, names⟩ => do
    let (item, i) ← match r with
      | .blockEntry :: _ | .blockEnd :: _ => some (empty none, ⟨r, names⟩)
      | _ => read? handles fuel .block ⟨r, names⟩
    let (items, i) ← blockItems? handles fuel i
    return (item :: items, i)
  | _, _ => none

/-- The items of a sequence that is not indented; what is no item ends it. -/
def plainItems? (handles : List (List Char)) : Nat → Input → Option (List Node × Input)
  | 0, _ => none
  | fuel + 1, ⟨.blockEntry :: r, names⟩ => do
    let (item, i) ←
      if isLeftOut r then some (empty none, ⟨r, names⟩)
      else read? handles fuel .block ⟨r, names⟩
    let (items, i) ← plainItems? handles fuel i
    return (item :: items, i)
  | _ + 1, i => some ([], i)

/-- The entries of a block mapping up to its end; each starts with a key token. -/
def blockEntries? (handles : List (List Char)) :
    Nat → Input → Option (List (Node × Node) × Input)
  | 0, _ => none
  | _ + 1, ⟨.blockEnd :: r, names⟩ => some ([], ⟨r, names⟩)
  | fuel + 1, ⟨.key :: r, names⟩ => do
    let (key, i) ← blockNode? handles fuel ⟨r, names⟩
    let (value, i) ← match i.tokens with
      | .value :: r => blockNode? handles fuel { i with tokens := r }
      | _ => some (empty none, i)
    let (entries, i) ← blockEntries? handles fuel i
    return ((key, value) :: entries, i)
  | _, _ => none

/-- A key or value of a block mapping, which may be left out. -/
def blockNode? (handles : List (List Char)) : Nat → Input → Option (Node × Input)
  | 0, _ => none
  | fuel + 1, i =>
    match i.tokens with
    | .key :: _ | .value :: _ | .blockEnd :: _ => some (empty none, i)
    | _ => read? handles fuel .entry i

/-- The items of a flow sequence up to its bracket, with commas between them and
perhaps after the last.  An item may be an entry, which makes a mapping of its own. -/
def flowItems? (handles : List (List Char)) :
    Nat → Bool → Input → Option (List Node × Input)
  | 0, _, _ => none
  | _ + 1, _, ⟨.flowSequenceEnd :: r, names⟩ => some ([], ⟨r, names⟩)
  | fuel + 1, first, i => do
    let i ← separated? first i
    match i.tokens with
    | .flowSequenceEnd :: r => return ([], { i with tokens := r })
    | .key :: r =>
      let (key, i) ← flowNode? handles fuel .flowSequenceEnd { i with tokens := r }
      let (value, i) ← flowValue? handles fuel .flowSequenceEnd i
      let (items, i) ← flowItems? handles fuel false i
      return (mapping none [(key, value)] :: items, i)
    | _ =>
      let (item, i) ← read? handles fuel .flow i
      let (items, i) ← flowItems? handles fuel false i
      return (item :: items, i)

/-- The entries of a flow mapping up to its brace. -/
def flowEntries? (handles : List (List Char)) :
    Nat → Bool → Input → Option (List (Node × Node) × Input)
  | 0, _, _ => none
  | _ + 1, _, ⟨.flowMappingEnd :: r, names⟩ => some ([], ⟨r, names⟩)
  | fuel + 1, first, i => do
    let i ← separated? first i
    match i.tokens with
    | .flowMappingEnd :: r => return ([], { i with tokens := r })
    | .key :: r =>
      let (key, i) ← flowNode? handles fuel .flowMappingEnd { i with tokens := r }
      let (value, i) ← flowValue? handles fuel .flowMappingEnd i
      let (entries, i) ← flowEntries? handles fuel false i
      return ((key, value) :: entries, i)
    | _ =>
      let (key, i) ← read? handles fuel .flow i
      let (entries, i) ← flowEntries? handles fuel false i
      return ((key, empty none) :: entries, i)

/-- A key or value inside a flow collection with the given end, which may be left
out. -/
def flowNode? (handles : List (List Char)) : Nat → Token → Input → Option (Node × Input)
  | 0, _, _ => none
  | fuel + 1, stop, i =>
    match i.tokens with
    | [] => none
    | t :: _ =>
      if t = .value ∨ t = .flowEntry ∨ t = stop then some (empty none, i)
      else read? handles fuel .flow i

/-- The value behind a key inside a flow collection. -/
def flowValue? (handles : List (List Char)) : Nat → Token → Input → Option (Node × Input)
  | 0, _, _ => none
  | fuel + 1, stop, i =>
    match i.tokens with
    | .value :: r => flowNode? handles fuel stop { i with tokens := r }
    | _ => some (empty none, i)

end

end Node

/-! ### Documents -/

namespace Document

/-- The directives before a document: whether there are any, the tag handles they
declare, and what follows.  There is at most one version, 1.1 or 1.2, and no handle
is declared twice. -/
def directives? (version : Bool) (handles : List (List Char)) :
    List Token → Option (Bool × List (List Char) × List Token)
  | .version major minor :: r =>
    if version || major != 1 || !(minor == 1 || minor == 2) then none
    else directives? true handles r
  | .tagHandle h :: r => if handles.contains h then none else directives? version (h :: handles) r
  | ts => some (version || !handles.isEmpty, handles, ts)

/-- The root behind a document start, which may be left out. -/
def root? (handles : List (List Char)) (fuel : Nat) (ts : List Token) :
    Option (Node × Node.Input) :=
  match ts with
  | [] | .documentEnd :: _ | .documentStart :: _ | .version _ _ :: _ | .tagHandle _ :: _ =>
    some (.empty none, ⟨ts, []⟩)
  | _ => Node.read? handles fuel .block ⟨ts, []⟩

/-- The one document of a token sequence; only document ends may follow it. -/
def ofTokens? (ts : List Token) : Option Document := do
  let fuel := 4 * ts.length + 4
  let (declared, handles, ts) ← directives? false [] ts
  let (root, i) ← match ts with
    | .documentStart :: r => root? handles fuel r
    | _ => if declared then none else Node.read? handles fuel .block ⟨ts, []⟩
  if i.tokens.all (· == .documentEnd) then some ⟨root, root.anchored.reverse⟩ else none

def read? (text : String) : Option Document := do ofTokens? (← Token.scan? text.toList)

end Document

end AlertRules.Yaml
