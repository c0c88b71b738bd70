import ImportDepth.Proofs.Walk
import Mathlib.Data.List.Chain
import Mathlib.Data.Prod.Lex
import Mathlib.Logic.Relation

/-! The walk as a loop, and the order in which it calls. Every turn takes one node off the pending trees, so the
loop ends; what is called in the end is fixed by any state on the way. If the spans of the nodes nest and follow
one another as a parser lays them out, the calls come sorted by where they start, the enclosing node first. -/
namespace ImportDepth

namespace Walk

/-- The loop between two turns: the pending nodes, topmost first, the calls so far, and how many were counted. -/
structure State where
  pending : List Node
  calls : List Node
  invoked : Nat

/-- One turn. The topmost node is called if its kind is listed, and gives way to its children. -/
inductive Turn (kinds : List String) : State → State → Prop where
  | call {top : Node} {rest calls : List Node} {invoked : Nat} (listed : top.kind ∈ kinds) :
      Turn kinds ⟨top :: rest, calls, invoked⟩ ⟨top.children ++ rest, calls ++ [top], invoked + 1⟩
  | pass {top : Node} {rest calls : List Node} {invoked : Nat} (other : top.kind ∉ kinds) :
      Turn kinds ⟨top :: rest, calls, invoked⟩ ⟨top.children ++ rest, calls, invoked⟩

/-- Where the loop ends from a state: nothing is pending, and what was pending has been called in order. -/
def State.outcome (kinds : List String) (s : State) : State :=
  let further := (Node.preorderAll s.pending).filter (kinds.contains ·.kind)
  ⟨[], s.calls ++ further, s.invoked + further.length⟩

variable {kinds : List String} {s t : State}

theorem Turn.outcome_eq (turn : Turn kinds s t) : s.outcome kinds = t.outcome kinds := by
  cases turn with
  | call listed =>
    simp [State.outcome, Node.preorderAll, Node.preorder_eq, Node.preorderAll_append, listed, Nat.add_assoc,
      Nat.add_comm 1]
  | pass other =>
    simp [State.outcome, Node.preorderAll, Node.preorder_eq, Node.preorderAll_append, other]

theorem Turn.sizeAll_lt (turn : Turn kinds s t) : Node.sizeAll t.pending < Node.sizeAll s.pending := by
  have lighter (top : Node) (rest : List Node) :
      Node.sizeAll (top.children ++ rest) < Node.sizeAll (top :: rest) := by
    rw [Node.sizeAll_append, Node.sizeAll, Node.size_eq]
    omega
  cases turn with
  | call => exact lighter _ _
  | pass => exact lighter _ _

/-- There is no endless sequence of turns. -/
theorem turn_accessible (kinds : List String) (s : State) : Acc (fun after before => Turn kinds before after) s :=
  Subrelation.accessible Turn.sizeAll_lt (InvImage.accessible (fun s : State => Node.sizeAll s.pending)
    (Nat.lt_wfRel.wf.apply _))

theorem exists_turn (kinds : List String) {top : Node} {rest : List Node} (pending : s.pending = top :: rest) :
    ∃ t, Turn kinds s t := by
  obtain ⟨nodes, calls, invoked⟩ := s
  cases pending
  by_cases listed : top.kind ∈ kinds
  · exact ⟨_, .call listed⟩
  · exact ⟨_, .pass listed⟩

theorem outcome_eq_self (done : s.pending = []) : s.outcome kinds = s := by
  obtain ⟨pending, calls, invoked⟩ := s
  cases done
  simp [State.outcome, Node.preorderAll]

theorem reaches_outcome (s : State) : Relation.ReflTransGen (Turn kinds) s (s.outcome kinds) := by
  -- The loop ends, so the run is built backwards from its last turn.
  induction turn_accessible kinds s with
  | intro s _ ih =>
    cases pending : s.pending with
    | nil => rw [outcome_eq_self pending]
    | cons top rest =>
      obtain ⟨t, turn⟩ := exists_turn kinds pending
      rw [turn.outcome_eq]
      exact .head turn (ih t turn)

theorem outcome_eq_of_reaches (run : Relation.ReflTransGen (Turn kinds) s t) :
    s.outcome kinds = t.outcome kinds := by
  induction run with
  | refl => rfl
  | tail _ turn ih => rw [ih, turn.outcome_eq]

/-- The states that the loop can end in. -/
theorem ends_iff : (Relation.ReflTransGen (Turn kinds) s t ∧ ∀ next, ¬ Turn kinds t next) ↔
    t = s.outcome kinds := by
  constructor
  · rintro ⟨run, stuck⟩
    cases pending : t.pending with
    | nil => rw [outcome_eq_of_reaches run, outcome_eq_self pending]
    | cons top rest =>
      obtain ⟨next, turn⟩ := exists_turn kinds pending
      exact absurd turn (stuck next)
  · rintro rfl
    refine ⟨reaches_outcome s, ?_⟩
    intro next turn
    cases turn

end Walk

instance : PartialOrder Position :=
  PartialOrder.lift (fun p => toLex (p.row, p.col)) (by
    rintro ⟨row, col⟩ ⟨row', col'⟩ same
    cases same
    rfl)

theorem Position.le_iff {p q : Position} : p ≤ q ↔ p.row < q.row ∨ p.row = q.row ∧ p.col ≤ q.col :=
  Prod.Lex.toLex_le_toLex

instance : DecidableLE Position := fun _ _ => decidable_of_iff _ Position.le_iff.symm

namespace Node

/-- The span of a node goes forward, and its children lie inside it, each behind the one before. -/
structure IsPlaced (n : Node) : Prop where
  forward : n.span.start ≤ n.span.stop
  inside : ∀ child ∈ n.children, n.span.start ≤ child.span.start ∧ child.span.stop ≤ n.span.stop
  apart : n.children.IsChain fun left right => left.span.stop ≤ right.span.start

instance (n : Node) : Decidable n.IsPlaced :=
  decidable_of_iff (_ ∧ _ ∧ _) ⟨fun ⟨forward, inside, apart⟩ => ⟨forward, inside, apart⟩,
    fun placed => ⟨placed.forward, placed.inside, placed.apart⟩⟩

/-- The first node starts before the second, or starts with it and does not end before it. -/
def Leads (a b : Node) : Prop :=
  a.span.start < b.span.start ∨ a.span.start = b.span.start ∧ b.span.stop ≤ a.span.stop

variable {n m a b : Node} {siblings : List Node}

theorem leads_of_encloses (starts : a.span.start ≤ b.span.start) (stops : b.span.stop ≤ a.span.stop) :
    a.Leads b := by
  rcases lt_or_eq_of_le starts with before | same
  · exact .inl before
  · exact .inr ⟨same, stops⟩

/-- What lies in a tree lies in the span of its root. -/
theorem span_of_mem_preorder (placed : ∀ m ∈ n.preorder, m.IsPlaced) (member : m ∈ n.preorder) :
    n.span.start ≤ m.span.start ∧ m.span.stop ≤ n.span.stop := by
  induction n using Node.induct_children with
  | step n ih =>
    rcases mem_preorder_iff.mp member with rfl | ⟨child, among, member⟩
    · exact ⟨le_refl _, le_refl _⟩
    · have below : ∀ m ∈ child.preorder, m.IsPlaced := fun m inside =>
        placed m (mem_preorder_of_child among inside)
      obtain ⟨starts, stops⟩ := (placed n n.mem_preorder_self).inside child among
      obtain ⟨starts', stops'⟩ := ih child among below member
      exact ⟨starts.trans starts', stops'.trans stops⟩

/-- A sibling ends before all that follow start, because those in between go forward. -/
theorem pairwise_of_isChain (forward : ∀ m ∈ siblings, m.span.start ≤ m.span.stop)
    (apart : siblings.IsChain fun left right => left.span.stop ≤ right.span.start) :
    siblings.Pairwise fun left right => left.span.stop ≤ right.span.start := by
  induction siblings with
  | nil => exact .nil
  | cons left rest ih =>
    have ordered := ih (fun m member => forward m (List.mem_cons_of_mem left member)) apart.tail
    refine .cons ?_ ordered
    cases rest with
    | nil => simp
    | cons next rest =>
      have touching := (List.isChain_cons_cons.mp apart).1
      intro right member
      rcases List.mem_cons.mp member with rfl | member
      · exact touching
      · have between := forward next (by simp)
        exact (touching.trans between).trans ((List.pairwise_cons.mp ordered).1 right member)

/-- In document order every node with a span that is not empty leads all that come later. -/
theorem pairwise_preorder (placed : ∀ m ∈ n.preorder, m.IsPlaced) :
    n.preorder.Pairwise fun a b => a.span.start ≠ a.span.stop → a.Leads b := by
  induction n using Node.induct_children with
  | step n ih =>
    have below {child : Node} (among : child ∈ n.children) : ∀ m ∈ child.preorder, m.IsPlaced :=
      fun m inside => placed m (mem_preorder_of_child among inside)
    rw [preorder_eq, preorderAll_eq_flatMap, List.pairwise_cons, List.pairwise_flatMap]
    refine ⟨?_, fun child among => ih child among (below among), ?_⟩
    · intro m member _
      obtain ⟨child, among, inside⟩ := List.mem_flatMap.mp member
      obtain ⟨starts, stops⟩ := span_of_mem_preorder placed (mem_preorder_of_child among inside)
      exact leads_of_encloses starts stops
    · have forward : ∀ child ∈ n.children, child.span.start ≤ child.span.stop := fun child among =>
        (below among child child.mem_preorder_self).forward
      have ordered := pairwise_of_isChain forward (placed n n.mem_preorder_self).apart
      refine ordered.imp_of_mem ?_
      -- A node in an earlier sibling starts before it ends, and ends before anything in a later sibling starts.
      intro left right amongLeft amongRight apart a inLeft b inRight nonempty
      have started := lt_of_le_of_ne (below amongLeft a inLeft).forward nonempty
      have stops := (span_of_mem_preorder (below amongLeft) inLeft).2
      have starts := (span_of_mem_preorder (below amongRight) inRight).1
      exact .inl (started.trans_le ((stops.trans apart).trans starts))

end Node

namespace Walk

/-- The walk is document order. Its loop ends from every root, in one state only: nothing is pending, the calls
are the nodes of the listed kinds in document order, each as often as it occurs, and as many were counted. If all
spans are placed and those of the called nodes are not empty, every call leads all later ones. -/
theorem select_in_document_order (kinds : List String) (root : Node) :
    Acc (fun after before => Turn kinds before after) ⟨[root], [], 0⟩ ∧
      (∀ final : State, (Relation.ReflTransGen (Turn kinds) ⟨[root], [], 0⟩ final ∧
          ∀ next, ¬ Turn kinds final next) ↔
        final = ⟨[], select kinds root, (select kinds root).length⟩) ∧
      select kinds root = root.preorder.filter (·.kind ∈ kinds) ∧
      ((∀ n ∈ root.preorder, n.IsPlaced) →
        (∀ n ∈ root.preorder, n.kind ∈ kinds → n.span.start ≠ n.span.stop) →
        (select kinds root).Pairwise Node.Leads) := by
  have filtered : select kinds root = root.preorder.filter (·.kind ∈ kinds) := by
    simp only [select_eq_filter, List.contains_eq_mem]
  have outcome : State.outcome kinds ⟨[root], [], 0⟩ =
      ⟨[], select kinds root, (select kinds root).length⟩ := by
    simp [State.outcome, Node.preorderAll, select_eq_filter]
  refine ⟨turn_accessible kinds _, ?_, filtered, ?_⟩
  · intro final
    rw [ends_iff, outcome]
  · intro placed nonempty
    rw [filtered, List.pairwise_filter]
    refine (Node.pairwise_preorder placed).imp_of_mem ?_
    intro a b member _ leads listed _
    exact leads (nonempty a member (of_decide_eq_true listed))

/-- The call of a call, which starts where its callee starts, with another call among its arguments. -/
def calledTwice : Node where
  kind := "call_expression"
  span := ⟨⟨0, 0⟩, ⟨1, 5⟩⟩
  children := [
    { kind := "call_expression", span := ⟨⟨0, 0⟩, ⟨0, 3⟩⟩ },
    { kind := "arguments", span := ⟨⟨0, 3⟩, ⟨1, 5⟩⟩
      children := [{ kind := "call_expression", span := ⟨⟨1, 0⟩, ⟨1, 4⟩⟩ }] }]

theorem select_in_document_order_called_twice :
    (∀ n ∈ calledTwice.preorder, n.IsPlaced) ∧
      (∀ n ∈ calledTwice.preorder, n.kind ∈ ["call_expression"] → n.span.start ≠ n.span.stop) ∧
      (select ["call_expression"] calledTwice).map (·.span.start) = [⟨0, 0⟩, ⟨0, 0⟩, ⟨1, 0⟩] ∧
      (select ["call_expression"] calledTwice).Pairwise Node.Leads := by
  have placed : ∀ n ∈ calledTwice.preorder, n.IsPlaced := by decide
  have nonempty : ∀ n ∈ calledTwice.preorder, n.kind ∈ ["call_expression"] →
      n.span.start ≠ n.span.stop := by decide
  obtain ⟨_, _, _, ordered⟩ := select_in_document_order ["call_expression"] calledTwice
  exact ⟨placed, nonempty, by decide, ordered placed nonempty⟩

end Walk
end ImportDepth
