import Storefront.Yaml.Token.Lexer

/-!
# Documents

`Document.ofText?` reads the single document of a text from its tokens.

* A value, a key or an item that is not written is an empty scalar.
* A name given with `&` gets a number, which is the count of the different names before it. A name
  that is given again gets the count of all names so far, so a new name behind it has the same
  number, and both stand for the later node.

All recursion is bounded by the number of tokens: each step reads a token or goes one of a fixed
number of levels deeper.
-/

namespace Storefront.Yaml

private structure Reader where
  tokens : List Token
  /-- The names given so far, each with its last number. -/
  names : List (String × Nat) := []
  /-- What the handles of tags stand for. -/
  handles : List (String × Tag) := [("!", .nonspecific), ("!!", .core "")]

namespace Reader

private abbrev Read := StateT Reader Option

private def peek : Read (Option Token) := return (← get).tokens.head?

private def advance : Read Unit := modify fun r => { r with tokens := r.tokens.drop 1 }

/-- Reads the token if it comes next. -/
private def accept (token : Token) : Read Bool := do
  if (← peek) = some token then
    advance
    return true
  return false

private def expect (token : Token) : Read Unit := do guard (← accept token)

/-- Whether the next token is one of those. -/
private def isNext (tokens : List Token) : Read Bool := return (← peek).any tokens.contains

/-! ## Names and tags -/

/-- What may stand before a node. -/
private structure Properties where
  anchor : Option String := none
  tag : Option Tag := none

/-- The tag that is written with a handle. -/
private def fullTag (handle : String) (suffix : Tag) : Read Tag := do
  if handle.isEmpty then return suffix
  let stands ← (← get).handles.lookup handle
  return stands ++ suffix

private def anchor? : Read (Option String) := do
  match ← peek with
  | some (.anchor name) => do
    advance
    return some name
  | _ => return none

private def tag? : Read (Option Tag) := do
  match ← peek with
  | some (.tag handle suffix) => do
    advance
    return some (← fullTag handle suffix)
  | _ => return none

/-- Reads the properties of a node, in either order. -/
private def properties : Read Properties := do
  let first ← anchor?
  let tag ← tag?
  let anchor ← if first.isSome || tag.isNone then pure first else anchor?
  return { anchor, tag }

/-- Numbers a name that is given to a node. -/
private def number (name : String) : Read Nat := do
  let number := (← get).names.length
  modify fun r => { r with names := (name, number) :: r.names.filter (·.1 ≠ name) }
  return number

/-! ## Nodes -/

mutual

/-- Reads a node. Outside brackets it may be a collection without brackets, and `indentless` says
whether the items of a sequence may stand at the column of the mapping around it. -/
private def node (inBlock indentless : Bool) : Nat → Read Node
  | 0 => failure
  | bound + 1 => do
    if let some (.alias name) ← peek then
      advance
      return .alias (← (← get).names.lookup name)
    let own ← properties
    let number ← own.anchor.mapM number
    let node ← content inBlock indentless own bound
    match number with
    | some number => return .anchored number node
    | none => return node

/-- Reads what stands behind the properties of a node. -/
private def content (inBlock indentless : Bool) (own : Properties) : Nat → Read Node
  | 0 => failure
  | bound + 1 => do
    match ← peek with
    | some (.scalar style text) => do
      advance
      return .scalar { style, text, tag := own.tag.filter (· ≠ .nonspecific) }
    | some .flowSequenceStart => do
      advance
      return .sequence (← flowItems true bound)
    | some .flowMappingStart => do
      advance
      return .mapping (← flowEntries true bound)
    | token =>
      if indentless && token = some .item then return .sequence (← indentlessItems bound)
      if inBlock && token = some .blockSequenceStart then
        advance
        return .sequence (← blockItems bound)
      if inBlock && token = some .blockMappingStart then
        advance
        return .mapping (← blockEntries bound)
      guard (own.anchor.isSome || own.tag.isSome)
      return .scalar { tag := own.tag }

/-- Reads a node, or an empty one if it is not written because one of the given tokens follows. -/
private def nodeBefore (stops : List Token) (inBlock indentless : Bool) : Nat → Read Node
  | 0 => failure
  | bound + 1 => do
    if ← isNext stops then return .empty
    node inBlock indentless bound

/-- Reads the value behind a key, which is empty if no colon follows. -/
private def valueBefore (stops : List Token) (inBlock : Bool) : Nat → Read Node
  | 0 => failure
  | bound + 1 => do
    if ← accept .value then nodeBefore stops inBlock inBlock bound else return .empty

private def blockItems : Nat → Read (List Node)
  | 0 => failure
  | bound + 1 => do
    if ← accept .blockEnd then return []
    expect .item
    let item ← nodeBefore [.item, .blockEnd] true false bound
    return item :: (← blockItems bound)

/-- Reads the items of a sequence at the column of the mapping around it. -/
private def indentlessItems : Nat → Read (List Node)
  | 0 => failure
  | bound + 1 => do
    if !(← accept .item) then return []
    let item ← nodeBefore [.item, .key, .value, .blockEnd] true false bound
    return item :: (← indentlessItems bound)

private def blockEntries : Nat → Read (List (Node × Node))
  | 0 => failure
  | bound + 1 => do
    if ← accept .blockEnd then return []
    expect .key
    let stops := [.key, .value, .blockEnd]
    let key ← nodeBefore stops true true bound
    let value ← valueBefore stops true bound
    return (key, value) :: (← blockEntries bound)

/-- Reads the items of a sequence in brackets. A single entry of a mapping may stand as an item. If
its key is not written, the token behind the question mark is passed over. -/
private def flowItems (first : Bool) : Nat → Read (List Node)
  | 0 => failure
  | bound + 1 => do
    if ← accept .flowSequenceEnd then return []
    if !first then
      expect .comma
      if ← accept .flowSequenceEnd then return []
    let stops := [.comma, .flowSequenceEnd]
    let item ← if ← accept .key then do
        let key ← if ← isNext (.value :: stops) then do
            advance
            pure .empty
          else node false false bound
        let value ← valueBefore stops false bound
        pure (Node.mapping [(key, value)])
      else node false false bound
    return item :: (← flowItems false bound)

/-- Reads the entries of a mapping in braces. -/
private def flowEntries (first : Bool) : Nat → Read (List (Node × Node))
  | 0 => failure
  | bound + 1 => do
    if ← accept .flowMappingEnd then return []
    if !first then
      expect .comma
      if ← accept .flowMappingEnd then return []
    let stops := [.comma, .flowMappingEnd]
    let entry ← if ← accept .key then do
        let key ← nodeBefore (.value :: stops) false false bound
        let value ← valueBefore stops false bound
        pure (key, value)
      else do
        let key ← node false false bound
        pure (key, .empty)
    return entry :: (← flowEntries false bound)

end

/-! ## The document -/

/-- Reads the directives before a document. Each is given at most once. -/
private def directives (hasVersion : Bool) (given : List (String × Tag)) : Nat → Read Unit
  | 0 => failure
  | bound + 1 => do
    match ← peek with
    | some (.version major minor) => do
      guard (!hasVersion && major = 1 && (minor = 1 || minor = 2))
      advance
      directives true given bound
    | some (.handle handle stands) => do
      guard (given.lookup handle).isNone
      advance
      directives hasVersion ((handle, stands) :: given) bound
    | _ => modify fun r => { r with handles := given ++ r.handles }

/-- Reads the end of a document, behind which nothing may stand. -/
private def finish : Nat → Read Unit
  | 0 => failure
  | bound + 1 => do
    if ← accept .documentEnd then finish bound else guard (← peek).isNone

/-- Whether a token stands before the node of a document. -/
private def isPreamble : Token → Bool
  | .version .. | .handle .. | .documentStart => true
  | _ => false

/-- Reads a text with a single document. An empty text is an empty node. -/
private def document (bound : Nat) : Read Node := do
  let first ← peek
  if first.isNone then return .empty
  let node ← if first.any isPreamble then do
      directives false [] bound
      expect .documentStart
      let next ← peek
      if next.isNone || next.any fun t => isPreamble t || t = .documentEnd then pure .empty
      else node true false bound
    else node true false bound
  finish bound
  return node

end Reader

/-- The document that a text holds. -/
def Document.ofText? (text : String) : Option Document := do
  let tokens ← Token.ofText? text
  let (root, _) ← (Reader.document (4 * tokens.length + 16)).run { tokens }
  return { root }

end Storefront.Yaml
