import TenantGuard.Yaml.Token

/-!
# Documents as trees

A node is a scalar, a collection of nodes, or an alias for a node elsewhere in
the document.  Nodes that aliases can stand for carry a number.
-/

namespace TenantGuard.Yaml

/-- What stands in front of a node. -/
structure Properties where
  /-- The number by which aliases know the node. -/
  anchor : Option Nat := none
  tag : Option String := none

inductive Node where
  | scalar (properties : Properties) (style : Style) (text : String)
  | sequence (properties : Properties) (items : List Node)
  | mapping (properties : Properties) (entries : List (Node × Node))
  | alias (number : Nat)

namespace Node

/-- What is read where nothing is written. -/
def empty (properties : Properties) : Node :=
  .scalar properties .plain ""

def properties : Node → Properties
  | .scalar properties _ _ => properties
  | .sequence properties _ => properties
  | .mapping properties _ => properties
  | .alias _ => {}

mutual

/-- How many places a reader passes in a node.  A collection has one at either
end. -/
def size : Node → Nat
  | .scalar _ _ _ => 1
  | .alias _ => 1
  | .sequence _ items => 2 + sizeOfItems items
  | .mapping _ entries => 2 + sizeOfEntries entries

def sizeOfItems : List Node → Nat
  | [] => 0
  | item :: rest => item.size + sizeOfItems rest

def sizeOfEntries : List (Node × Node) → Nat
  | [] => 0
  | (key, value) :: rest => key.size + value.size + sizeOfEntries rest

end

mutual

/-- The node and all nodes within it, in the order in which they begin. -/
def nodes : Node → List Node
  | .scalar properties style text => [.scalar properties style text]
  | .alias number => [.alias number]
  | .sequence properties items => .sequence properties items :: nodesOfItems items
  | .mapping properties entries => .mapping properties entries :: nodesOfEntries entries

def nodesOfItems : List Node → List Node
  | [] => []
  | item :: rest => item.nodes ++ nodesOfItems rest

def nodesOfEntries : List (Node × Node) → List Node
  | [] => []
  | (key, value) :: rest => key.nodes ++ value.nodes ++ nodesOfEntries rest

end

end Node

/-- A document.  One without any content has no root. -/
structure Document where
  root : Option Node

namespace Document

/-- What an alias stands for: the last node with its number. -/
def target? (document : Document) (number : Nat) : Option Node := do
  let root ← document.root
  root.nodes.reverse.find? fun node => node.properties.anchor = some number

/-- The node itself, or the one that an alias stands for. -/
def resolve (document : Document) : Node → Node
  | .alias number => (document.target? number).getD (Node.empty {})
  | node => node

/-- How many places a reader passes in the document. -/
def size (document : Document) : Nat :=
  (document.root.map Node.size).getD 1

end Document

end TenantGuard.Yaml
