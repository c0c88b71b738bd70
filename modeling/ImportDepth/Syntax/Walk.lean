import ImportDepth.Syntax.Node

/-! The walk over a tree with a stack of pending nodes. Each turn takes the topmost node, visits it
and puts its children in its place, the leftmost on top. -/
namespace ImportDepth.Walk

/-- The nodes visited in a number of turns from a stack, topmost first. -/
def turns : Nat → List Node → List Node
  | 0, _ => []
  | _ + 1, [] => []
  | n + 1, top :: rest => top :: turns n (top.children ++ rest)

/-- All visits of the walk from one root. There are as many turns as nodes. -/
def visits (root : Node) : List Node := turns root.size [root]

def select (kinds : List String) (root : Node) : List Node :=
  (visits root).filter (kinds.contains ·.kind)

end ImportDepth.Walk
