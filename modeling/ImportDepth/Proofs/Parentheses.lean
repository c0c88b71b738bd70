import ImportDepth.Proofs.Walk
import ImportDepth.Reference

/-! Taking parentheses off an expression. Parentheses with a single significant child give way to
whatever that child gives way to; every other node stands for itself. On every tree this ends, and the nodes of a
class in any number of parentheses are those that end in the class. -/
namespace ImportDepth.Node

theorem unparenthesizeFirst_of_filter {otherwise inner : Node} {children : List Node}
    (single : children.filter (·.isSignificant) = [inner]) :
    unparenthesizeFirst otherwise children = inner.unparenthesize := by
  induction children with
  | nil => cases single
  | cons child rest ih =>
    rw [unparenthesizeFirst]
    by_cases significant : child.isSignificant
    · rw [List.filter_cons_of_pos significant] at single
      rw [if_pos significant, (List.cons.inj single).1]
    · rw [List.filter_cons_of_neg significant] at single
      rw [if_neg significant, ih single]

theorem unparenthesize_of_single {n inner : Node} (kind : n.kind = "parenthesized_expression")
    (single : n.children.filter (·.isSignificant) = [inner]) : n.unparenthesize = inner.unparenthesize := by
  obtain ⟨_, text, named, field, span, children⟩ := n
  rw [unparenthesize, if_pos ⟨kind, by rw [single]; rfl⟩, unparenthesizeFirst_of_filter single]

theorem unparenthesize_eq_self {n : Node} (closed : ¬ (n.kind = "parenthesized_expression" ∧
    ∃ inner, n.children.filter (·.isSignificant) = [inner])) : n.unparenthesize = n := by
  obtain ⟨_, text, named, field, span, children⟩ := n
  rw [unparenthesize, if_neg]
  rintro ⟨kind, one⟩
  exact closed ⟨kind, List.length_eq_one_iff.mp one⟩

/-- Parentheses around a single expression. Comments beside it do not count. -/
structure Encloses (outer inner : Node) : Prop where
  kind : outer.kind = "parenthesized_expression"
  only : outer.namedChildren.filter (·.kind ≠ "comment") = [inner]

inductive Parenthesized (X : Node → Prop) : Node → Prop where
  | bare {n : Node} (inside : X n) : Parenthesized X n
  | wrapped {outer inner : Node} (around : outer.Encloses inner) (inside : Parenthesized X inner) :
      Parenthesized X outer

/-- The first node is the second in any number of parentheses. The field that a node fills belongs to its place,
so the outermost node has its own. -/
def Wraps (outer n : Node) : Prop :=
  Parenthesized (fun core => core = { n with field := core.field }) outer

variable {n outer inner : Node} {X : Node → Prop}

theorem filter_namedChildren (n : Node) :
    n.namedChildren.filter (·.kind ≠ "comment") = n.children.filter (·.isSignificant) := by
  rw [namedChildren, List.filter_filter]
  congr 1
  funext child
  rw [isSignificant, Bool.and_comm]

theorem Encloses.mem_children (around : outer.Encloses inner) : inner ∈ outer.children := by
  have only := around.only
  rw [filter_namedChildren] at only
  exact (List.mem_filter.mp (only ▸ List.mem_singleton_self inner)).1

theorem Encloses.unparenthesize_eq (around : outer.Encloses inner) :
    outer.unparenthesize = inner.unparenthesize :=
  unparenthesize_of_single around.kind (by rw [← filter_namedChildren, around.only])

theorem unparenthesize_of_open (stuck : ∀ inner, ¬ n.Encloses inner) : n.unparenthesize = n := by
  apply unparenthesize_eq_self
  rintro ⟨kind, inner, only⟩
  exact stuck inner ⟨kind, by rw [filter_namedChildren, only]⟩

theorem unparenthesize_of_kind (other : n.kind ≠ "parenthesized_expression") : n.unparenthesize = n :=
  unparenthesize_of_open fun _ around => other around.kind

/-- There is no endless way into parentheses. -/
theorem acc_encloses (n : Node) : Acc (fun inner outer : Node => outer.Encloses inner) n := by
  induction n using Node.induct_children with
  | step n ih => exact ⟨n, fun inner around => ih inner around.mem_children⟩

/-- Induction from the outermost parentheses inwards. -/
theorem induct_parentheses {P : Node → Prop}
    (closed : ∀ outer inner : Node, outer.Encloses inner → P inner → P outer)
    (stuck : ∀ n : Node, (∀ inner, ¬ n.Encloses inner) → P n) (n : Node) : P n := by
  induction acc_encloses n with
  | intro n _ ih =>
    by_cases encloses : ∃ inner, n.Encloses inner
    · obtain ⟨inner, around⟩ := encloses
      exact closed n inner around (ih inner around)
    · exact stuck n fun inner around => encloses ⟨inner, around⟩

theorem parenthesized_of_unparenthesize (inside : X n.unparenthesize) : Parenthesized X n := by
  induction n using induct_parentheses with
  | closed outer inner around ih =>
    rw [around.unparenthesize_eq] at inside
    exact .wrapped around (ih inside)
  | stuck n stuck =>
    rw [unparenthesize_of_open stuck] at inside
    exact .bare inside

theorem not_encloses_unparenthesize (n : Node) : ∀ inner, ¬ n.unparenthesize.Encloses inner := by
  induction n using induct_parentheses with
  | closed outer inner around ih => rwa [around.unparenthesize_eq]
  | stuck n stuck => rwa [unparenthesize_of_open stuck]

/-- For a class without parentheses, taking them all off decides membership. -/
theorem parenthesized_iff (other : ∀ n, X n → n.kind ≠ "parenthesized_expression") :
    Parenthesized X n ↔ X n.unparenthesize := by
  constructor
  · intro inside
    induction inside with
    | bare inside => rwa [unparenthesize_of_kind (other _ inside)]
    | wrapped around _ ih => rwa [around.unparenthesize_eq]
  · exact parenthesized_of_unparenthesize

/-- A question about what is left without parentheses has one answer for all wrappings, unless it asks for the
field. -/
theorem Wraps.congr {β : Type} {f : Node → β} (blind : ∀ n field, f { n with field := field } = f n)
    (wraps : outer.Wraps n) : f outer.unparenthesize = f n.unparenthesize := by
  induction wraps with
  | @bare core same =>
    rw [same]
    by_cases closed : ∃ inner, n.Encloses inner
    · obtain ⟨inner, around⟩ := closed
      have around' : { n with field := core.field }.Encloses inner := ⟨around.kind, around.only⟩
      rw [around.unparenthesize_eq, around'.unparenthesize_eq]
    · have stuck : ∀ inner, ¬ n.Encloses inner := fun inner around => closed ⟨inner, around⟩
      have stuck' : ∀ inner, ¬ { n with field := core.field }.Encloses inner :=
        fun inner around => stuck inner ⟨around.kind, around.only⟩
      rw [unparenthesize_of_open stuck, unparenthesize_of_open stuck', blind]
  | wrapped around _ ih => rw [around.unparenthesize_eq, ih]

end ImportDepth.Node
