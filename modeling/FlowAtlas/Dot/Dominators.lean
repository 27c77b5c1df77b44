import FlowAtlas.DomTree
import FlowAtlas.Dot.BlockLabel

/-!
# The drawing of a dominator tree over its graph
-/

namespace FlowAtlas.Graph

/-- The node of a block, tagged by its number alone, followed by the edges to its children. -/
def treeItems? (g : Graph) (includeCode : Bool) (i : Nat) (node : DomNode) :
    Option (List Dot.Item) :=
  (g.nodeAttributes? i (toString i) includeCode).map fun attributes =>
    .node (toString i) attributes ::
      node.children.map fun c => .edge (toString i) (toString c) []

/-- The drawing of a tree; it must have a node for each block. -/
def treeDigraph (g : Graph) (t : DomTree) (title : String) (includeCode : Bool) :
    Except Failure Dot.Digraph :=
  if t.nodes.length = g.blocks.length then
    (found ((t.nodes.zipIdx 1).mapM fun (node, i) => g.treeItems? includeCode i node)).map
      fun items => ⟨Dot.escape title, items.flatten⟩
  else .error (.treeMismatch t.nodes.length g.blocks.length)

end FlowAtlas.Graph
