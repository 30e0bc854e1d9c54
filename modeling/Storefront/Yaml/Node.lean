/-!
# Nodes of a document

A document is a tree of scalars, sequences and mappings. A scalar keeps its style and its tag,
because both take part in deciding what it stands for. The tags of collections decide nothing and
are not kept.

An alias stands for a node elsewhere in the tree, possibly for one around it, so it is not
replaced: `Document.resolve` looks up what it stands for.

* `Node.anchors`: the nodes that aliases can stand for.
* `Document.resolve`: a node as it is read, which is never an alias with a target.
-/

namespace Storefront.Yaml

/-- How a scalar was written. -/
inductive Style where
  | plain
  | quoted
  | literal
  | folded
deriving DecidableEq, Repr, Inhabited

/-- A tag is kept as bytes, because its escapes need not spell a text. -/
structure Tag where
  bytes : List UInt8
deriving DecidableEq, Inhabited

namespace Tag

def ofText (text : String) : Tag := ⟨text.toUTF8.toList⟩

/-- The tags of the core schema. -/
def core (name : String) : Tag := ofText ("tag:yaml.org,2002:" ++ name)

/-- The tag behind the beginning that its handle stands for. -/
def append (a b : Tag) : Tag := ⟨a.bytes ++ b.bytes⟩

instance : Append Tag := ⟨append⟩

/-- The tag `!` alone. -/
def nonspecific : Tag := ofText "!"

/-- Whether a tag is local: it begins with `!`. -/
def isLocal (tag : Tag) : Bool := tag.bytes.head? = some 0x21

/-- The name in a local tag, if that is a text. -/
def localName? (tag : Tag) : Option String :=
  if tag.isLocal then
    let name := if tag = nonspecific then tag.bytes else tag.bytes.drop 1
    String.fromUTF8? ⟨name.toArray⟩
  else none

end Tag

structure Scalar where
  style : Style := .plain
  tag : Option Tag := none
  text : String := ""
deriving DecidableEq, Inhabited

/-- A scalar without quotes and without text. -/
def Scalar.isBlank (s : Scalar) : Bool := s.style = .plain && s.text.isEmpty

inductive Node where
  | scalar (scalar : Scalar)
  | sequence (items : List Node)
  | mapping (entries : List (Node × Node))
  /-- A node that aliases can stand for. -/
  | anchored (number : Nat) (node : Node)
  | alias (number : Nat)
deriving Inhabited

namespace Node

/-- A node that is not written at all. -/
def empty : Node := .scalar {}

mutual

/-- The nodes that aliases can stand for, with their numbers, in the order in which they begin. -/
def anchors : Node → List (Nat × Node)
  | .scalar _ => []
  | .sequence items => itemAnchors items
  | .mapping entries => entryAnchors entries
  | .anchored number node => (number, node) :: node.anchors
  | .alias _ => []

private def itemAnchors : List Node → List (Nat × Node)
  | [] => []
  | item :: items => item.anchors ++ itemAnchors items

private def entryAnchors : List (Node × Node) → List (Nat × Node)
  | [] => []
  | (key, value) :: entries => key.anchors ++ value.anchors ++ entryAnchors entries

end

end Node

/-- A tree of nodes with its anchors, the last one first. -/
structure Document where
  root : Node
  anchors : List (Nat × Node) := root.anchors.reverse

/-- The node that a node stands for. Of several anchors with one number the last counts. -/
def Document.resolve (d : Document) : Node → Node
  | .alias number => (d.anchors.lookup number).getD (.alias number)
  | .anchored _ node => node
  | node => node

end Storefront.Yaml
