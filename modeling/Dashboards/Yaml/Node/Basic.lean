import Dashboards.Yaml.Token.Basic

/-!
# Nodes

The tokens of a document form a tree of nodes. An anchored node has a number, by which the aliases
refer to it. Where the text is malformed the tree is cut off: `Node.lost` stands in the place of the
first node that cannot be known, and nothing follows it. Thus a reader that goes through the tree in
order notices either a node that it does not want or the fault, whichever comes first.
-/

namespace Dashboards.Yaml

/-- A node of a document. -/
inductive Node where
  | scalar (mark : Mark) (anchor : Option Nat) (tag : Option Tag) (style : ScalarStyle)
    (text : String)
  | sequence (mark : Mark) (anchor : Option Nat) (tag : Option Tag) (items : List Node)
  | mapping (mark : Mark) (anchor : Option Nat) (tag : Option Tag) (entries : List (Node × Node))
  /-- The node with an anchor of this number. -/
  | reference (mark : Mark) (number : Nat)
  /-- The place where the tree is cut off. -/
  | lost
deriving Inhabited

namespace Node

mutual

/-- The anchored nodes of a tree with their numbers, in the order in which they begin. -/
def anchored : Node → List (Nat × Node)
  | node@(scalar _ (some number) ..) => [(number, node)]
  | node@(sequence _ (some number) _ items) => (number, node) :: anchoredItems items
  | node@(mapping _ (some number) _ entries) => (number, node) :: anchoredEntries entries
  | sequence _ none _ items => anchoredItems items
  | mapping _ none _ entries => anchoredEntries entries
  | scalar _ none .. | reference .. | lost => []

/-- The anchored nodes among the elements of a sequence. -/
def anchoredItems : List Node → List (Nat × Node)
  | [] => []
  | item :: rest => anchored item ++ anchoredItems rest

/-- The anchored nodes among the entries of a mapping. -/
def anchoredEntries : List (Node × Node) → List (Nat × Node)
  | [] => []
  | (key, value) :: rest => anchored key ++ (anchored value ++ anchoredEntries rest)

end

mutual

/-- How many starts, ends and leaves a tree has. -/
def size : Node → Nat
  | scalar .. | reference .. => 1
  | sequence _ _ _ items => 2 + itemsSize items
  | mapping _ _ _ entries => 2 + entriesSize entries
  | lost => 0

/-- The sizes of the elements of a sequence together. -/
def itemsSize : List Node → Nat
  | [] => 0
  | item :: rest => size item + itemsSize rest

/-- The sizes of the entries of a mapping together. -/
def entriesSize : List (Node × Node) → Nat
  | [] => 0
  | (key, value) :: rest => size key + (size value + entriesSize rest)

end

mutual

/-- How many collections of a tree the cut leaves without an end. -/
def openEnds : Node → Nat
  | scalar .. | reference .. => 0
  | sequence _ _ _ items => openItems items
  | mapping _ _ _ entries => openEntries entries
  | lost => 0

/-- One for the collection of these elements if it is cut off, and those within. -/
def openItems : List Node → Nat
  | [] => 0
  | [lost] => 1
  | [item] => match openEnds item with
    | 0 => 0
    | n => n + 1
  | _ :: rest => openItems rest

/-- One for the mapping of these entries if it is cut off, and those within. A value is lost if its
key is cut off. -/
def openEntries : List (Node × Node) → Nat
  | [] => 0
  | [(key, lost)] => openEnds key + 1
  | [(_, value)] => match openEnds value with
    | 0 => 0
    | n => n + 1
  | _ :: rest => openEntries rest

end

end Node

/-- The first document of a text: its root, the anchored nodes, and what is wrong behind or within
it. -/
structure Document where
  /-- The root, if the text holds anything. -/
  root : Option Node
  /-- The fault that cuts the tree off or follows it. -/
  fault : Option Error
  /-- Whether another document follows. -/
  followed : Bool

end Dashboards.Yaml
