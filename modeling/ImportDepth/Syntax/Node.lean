import ImportDepth.Text.Utf8

/-! Concrete syntax trees. A node names its syntactic kind, may carry the bytes that it was read
from, and holds its children in source order; a child may fill a named field of its parent. Nothing
relates a node's text or span to its children here: every tree is allowed. -/
namespace ImportDepth

/-- A place in a source, counted from zero. Columns count bytes and rows count line feeds. -/
structure Position where
  row : Nat := 0
  col : Nat := 0
  deriving DecidableEq, Repr

structure Span where
  start : Position := {}
  stop : Position := {}
  deriving DecidableEq, Repr

structure Node where
  kind : String
  text : Option Bytes := none
  named : Bool := true
  field : Option String := none
  span : Span := {}
  children : List Node := []

namespace Node

instance : Inhabited Node := ⟨{ kind := "" }⟩

def namedChildren (n : Node) : List Node := n.children.filter (·.named)

def childByField? (n : Node) (field : String) : Option Node :=
  n.children.find? (·.field = some field)

def decodedText? (n : Node) : Option Text := n.text.map Utf8.decodeLossy

/-- A leaf of one of the kinds that name things, with exactly this text. -/
def isNamed (n : Node) (kind : String) (name : Text) : Bool :=
  n.kind = kind && n.decodedText? = some name

mutual

def size : Node → Nat
  | ⟨_, _, _, _, _, children⟩ => sizeAll children + 1

def sizeAll : List Node → Nat
  | [] => 0
  | n :: rest => n.size + sizeAll rest

end

mutual

/-- The nodes of a tree in document order: every node before its children, and the children of one
node from left to right. -/
def preorder : Node → List Node
  | n@⟨_, _, _, _, _, children⟩ => n :: preorderAll children

def preorderAll : List Node → List Node
  | [] => []
  | n :: rest => n.preorder ++ preorderAll rest

end

theorem preorder_eq (n : Node) : n.preorder = n :: preorderAll n.children := by
  obtain ⟨kind, text, named, field, span, children⟩ := n
  rw [preorder]

theorem preorderAll_eq_flatMap (nodes : List Node) : preorderAll nodes = nodes.flatMap preorder := by
  induction nodes with
  | nil => rfl
  | cons n rest ih => rw [preorderAll, ih, List.flatMap_cons]

theorem mem_preorder_iff {m n : Node} : m ∈ n.preorder ↔ m = n ∨ ∃ child ∈ n.children, m ∈ child.preorder := by
  rw [preorder_eq, List.mem_cons, preorderAll_eq_flatMap, List.mem_flatMap]

theorem mem_preorder_self (n : Node) : n ∈ n.preorder := mem_preorder_iff.mpr (.inl rfl)

theorem mem_preorder_of_child {m n child : Node} (among : child ∈ n.children) (inside : m ∈ child.preorder) :
    m ∈ n.preorder := mem_preorder_iff.mpr (.inr ⟨child, among, inside⟩)

end Node
end ImportDepth
