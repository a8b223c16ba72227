import JsonPath.Json.Basic

/-!
# Lists of nodes

A query selects a list of nodes.  A node may occur in it more than once.  A look-up that finds
nothing leaves an empty slot, and slots are dropped when a list is made from them.
-/

namespace JsonPath

/-- The nodes that a query selects, in order. -/
abbrev NodeList := List Json

namespace NodeList

/-- The nodes of the slots that are not empty. -/
def ofSlots (slots : List (Option Json)) : NodeList := slots.filterMap id

/-- The only node of a list of one node. -/
def single? : NodeList → Option Json
  | [node] => some node
  | _ => none

/-- A list with one more node at its end. -/
def push (nodes : NodeList) (node : Json) : NodeList := nodes ++ [node]

/-- The children of all nodes, one node after the other. -/
def children (nodes : NodeList) : NodeList := nodes.flatMap Json.children

end NodeList

end JsonPath
