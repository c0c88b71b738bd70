import ImportDepth.Syntax.Node

/-! Syntax trees as a grammar yields them. Character references are short in a source: none is longer than
an ampersand, thirty letters and a semicolon. A tree carries the proof of this for all of its nodes, so that
whatever is built from trees keeps to it. -/
namespace ImportDepth

/-- The most bytes that a character reference has in a source. -/
def Node.longestReference : Nat := 32

/-- A node that is a short character reference, or none. Punctuation counts as none. -/
def Node.IsShort (n : Node) : Prop :=
  n.named = true → n.kind = "html_character_reference" →
    (n.text.getD []).length ≤ longestReference

namespace Source

/-- Whether the nodes of a kind are character references, and so must be short. -/
def isCharacterReference (kind : String) : Bool := kind = "html_character_reference"

structure Tree where
  node : Node
  short : ∀ n ∈ node.preorder, n.IsShort

namespace Tree

theorem short_of_children {n : Node} (own : n.IsShort)
    (below : ∀ child ∈ n.children, ∀ m ∈ child.preorder, m.IsShort) :
    ∀ m ∈ n.preorder, m.IsShort := by
  intro m member
  rcases Node.mem_preorder_iff.mp member with rfl | ⟨child, among, inside⟩
  · exact own
  · exact below child among m inside

/-- A node with the given trees in place of what it holds. -/
def withChildren (n : Node) (own : n.IsShort) (children : List Tree) : Tree where
  node := { n with children := children.map (·.node) }
  short := short_of_children own fun child among => by
    obtain ⟨t, _, rfl⟩ := List.mem_map.mp among
    exact t.short

def withField (t : Tree) (field : Option String) : Tree where
  node := { t.node with field := field }
  short := short_of_children (t.short t.node t.node.mem_preorder_self) fun _ among m inside =>
    t.short m (Node.mem_preorder_of_child among inside)

/-- An inner node has no text of its own. -/
def branch (kind : String) (span : Span) (children : List Tree) : Tree :=
  withChildren { kind := kind, span := span } (fun _ _ => Nat.zero_le _) children

end Tree
end Source
end ImportDepth
