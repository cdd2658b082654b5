import DeviceRoster.SortedMap
import DeviceRoster.Yaml.Token

/-!
# YAML nodes

A document is a tree of nodes.  A node keeps where it starts and its tag, because both show when the
document is read as something else.  An alias keeps the number of the anchor it refers to, and the
document keeps the nodes with anchors.
-/

namespace DeviceRoster.Yaml

/-- A node of a document. -/
inductive Node where
  | scalar (mark : Mark) (tag : Option String) (style : ScalarStyle) (text : String)
  | sequence (mark : Mark) (tag : Option String) (items : List Node)
  /-- A mapping, as its entries in the order of the text. -/
  | mapping (mark : Mark) (tag : Option String) (entries : List (Node × Node))
  /-- A reference to the node with the given anchor. -/
  | alias (mark : Mark) (anchor : Nat)
  deriving Repr, Inhabited

namespace Node

/-- Where a node starts. -/
def mark : Node → Mark
  | .scalar m .. => m
  | .sequence m .. => m
  | .mapping m .. => m
  | .alias m _ => m

/-- The node without content. -/
def empty (mark : Mark) : Node := .scalar mark none .plain ""

mutual

/-- How much text a node amounts to: one for a scalar or an alias, two for the ends of a
collection. -/
def weight : Node → Nat
  | .scalar .. => 1
  | .alias .. => 1
  | .sequence _ _ items => 2 + weightOfItems items
  | .mapping _ _ entries => 2 + weightOfEntries entries

/-- The weight of the items of a sequence. -/
def weightOfItems : List Node → Nat
  | [] => 0
  | n :: rest => weight n + weightOfItems rest

/-- The weight of the entries of a mapping. -/
def weightOfEntries : List (Node × Node) → Nat
  | [] => 0
  | (k, v) :: rest => weight k + weight v + weightOfEntries rest

end

end Node

/-- The nodes that aliases refer to. -/
structure Anchors where
  /-- How many nodes with anchors have started. -/
  started : Nat
  /-- The numbers of the names so far. -/
  numbers : SortedMap String Nat
  /-- The last node that has started with a number. -/
  owners : SortedMap Nat Nat
  /-- The nodes that have ended, in the order in which they started. -/
  nodes : SortedMap Nat Node

namespace Anchors

def empty : Anchors := ⟨0, .empty, .empty, .empty⟩

instance : Inhabited Anchors := ⟨empty⟩

/-- Starts a node with the given name.  Its number is the number of different names before it, so that
a name used again may share its number with the next new name. -/
def start (a : Anchors) (name : String) : Anchors :=
  let number := a.numbers.size
  { a with
    started := a.started + 1
    numbers := a.numbers.insert name number
    owners := a.owners.insert number a.started }

/-- Ends the node that was the `position`-th to start. -/
def finish (a : Anchors) (position : Nat) (node : Node) : Anchors :=
  { a with nodes := a.nodes.insert position node }

/-- The node with a number. -/
def node? (a : Anchors) (number : Nat) : Option Node := (a.owners.get? number).bind a.nodes.get?

end Anchors

/-- A document. -/
structure Document where
  /-- The node that holds all others; a text without any content has none. -/
  root : Option Node
  anchors : Anchors
  /-- Whether more than blanks, comments and document ends follow the document. -/
  more : Bool
  deriving Inhabited

end DeviceRoster.Yaml
