import FlowAtlas.Dot.Quote

/-!
# Directed graphs of the DOT language

A directed graph has a title, which is its name and its label, and a list of nodes and edges, each
with attributes. All nodes are records.
-/

namespace FlowAtlas.Dot

/-- The attributes of a node or an edge: names with values. -/
abbrev Attributes := List (String × String)

/-- A node or an edge. -/
inductive Item where
  | node (id : String) (attributes : Attributes)
  | edge (tail head : String) (attributes : Attributes)
  deriving DecidableEq, Repr

/-- A directed graph. -/
structure Digraph where
  title : String
  items : List Item
  deriving DecidableEq, Repr

/-- Attributes in brackets, after a blank; nothing if there are none. -/
def attributeList : Attributes → String
  | [] => ""
  | attributes =>
    " [" ++ " ".intercalate (attributes.map fun (name, value) => name ++ "=" ++ quote value) ++ "]"

/-- The line of a node or an edge. -/
def Item.line : Item → String
  | .node id attributes => "\t" ++ quote id ++ attributeList attributes ++ "\n"
  | .edge tail head attributes =>
    "\t" ++ quote tail ++ " -> " ++ quote head ++ attributeList attributes ++ "\n"

namespace Digraph

/-- The first line; an empty title gives no name. -/
def opening (g : Digraph) : String :=
  if g.title.isEmpty then "digraph \x7b\n" else "digraph " ++ quote g.title ++ " \x7b\n"

/-- The lines of the body below the node defaults: the label, then the nodes and edges. -/
def bodyLines (g : Digraph) : List String :=
  ("\tlabel=" ++ quote g.title ++ "\n") :: g.items.map Item.line

/-- The text of a directed graph. -/
def source (g : Digraph) : String :=
  g.opening ++ "\tnode [shape=record]\n" ++ String.join g.bodyLines ++ "\x7d\n"

end Digraph

end FlowAtlas.Dot
