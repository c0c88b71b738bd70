import ImportDepth.Syntax.Walk

/-! The walk with a stack visits a tree in document order. The invariant concerns the whole stack: what
is still to be visited is the document order of the pending trees, one after the other. -/
namespace ImportDepth

namespace Node

theorem induct_children {P : Node → Prop} (step : ∀ n : Node, (∀ child ∈ n.children, P child) → P n)
    (n : Node) : P n := by
  refine Node.preorder.induct P (fun children => ∀ child ∈ children, P child) ?_ ?_ ?_ n
  · intro kind text named field span children ih
    exact step _ ih
  · intro child member
    cases member
  · intro n rest ih ihRest child member
    rcases List.mem_cons.mp member with rfl | member
    · exact ih
    · exact ihRest child member

theorem mem_preorder_trans {k m n : Node} (inside : k ∈ m.preorder) (below : m ∈ n.preorder) :
    k ∈ n.preorder := by
  induction n using Node.induct_children with
  | step n ih =>
    rcases mem_preorder_iff.mp below with rfl | ⟨child, among, below⟩
    · exact inside
    · exact mem_preorder_of_child among (ih child among below)

theorem size_eq (n : Node) : n.size = sizeAll n.children + 1 := by
  obtain ⟨kind, text, named, field, span, children⟩ := n
  rw [size]

theorem preorderAll_append (front back : List Node) :
    preorderAll (front ++ back) = preorderAll front ++ preorderAll back := by
  induction front with
  | nil => simp [preorderAll]
  | cons n rest ih => simp [preorderAll, ih]

theorem sizeAll_append (front back : List Node) :
    sizeAll (front ++ back) = sizeAll front + sizeAll back := by
  induction front with
  | nil => simp [sizeAll]
  | cons n rest ih => simp only [List.cons_append, sizeAll, ih, Nat.add_assoc]

end Node

namespace Walk

/-- Enough turns empty every stack, and visit its trees in document order. -/
theorem turns_eq_preorderAll {fuel : Nat} {stack : List Node}
    (enough : Node.sizeAll stack ≤ fuel) : turns fuel stack = Node.preorderAll stack := by
  induction fuel generalizing stack with
  | zero =>
    cases stack with
    | nil => rfl
    | cons top rest =>
      rw [Node.sizeAll, Node.size_eq] at enough
      omega
  | succ fuel ih =>
    cases stack with
    | nil => rfl
    | cons top rest =>
      have smaller : Node.sizeAll (top.children ++ rest) ≤ fuel := by
        rw [Node.sizeAll, Node.size_eq] at enough
        rw [Node.sizeAll_append]
        omega
      rw [turns, ih smaller, Node.preorderAll_append, Node.preorderAll, Node.preorder_eq,
        List.cons_append]

theorem visits_eq_preorder (root : Node) : visits root = root.preorder := by
  have enough : Node.sizeAll [root] ≤ root.size := by simp [Node.sizeAll]
  rw [visits, turns_eq_preorderAll enough]
  simp [Node.preorderAll]

theorem select_eq_filter (kinds : List String) (root : Node) :
    select kinds root = root.preorder.filter (kinds.contains ·.kind) := by
  rw [select, visits_eq_preorder]

end Walk
end ImportDepth
