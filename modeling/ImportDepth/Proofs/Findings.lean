import ImportDepth.Proofs.Literal
import ImportDepth.Proofs.Specifier
import Mathlib.Data.List.Forall2

/-! Exactness of the rule on a tree. A node is too deep if it is a reference whose known specifier is
relative and climbs further than the limit; the findings are those nodes in document order, each once. -/
namespace ImportDepth

/-- A node that refers to a module by a relative specifier which climbs further than a limit allows. -/
structure Node.TooDeep (limit : Nat) (n : Node) (specifier : Text) : Prop where
  kind : n.kind = "import_statement" ∨ n.kind = "call_expression" ∨ n.kind = "export_statement"
  known : n.specifier? = .ok (some specifier)
  relative : ("." : Text) <+: specifier
  deep : limit < Specifier.occurrences "../" specifier

instance (limit : Nat) (n : Node) : Decidable (∃ specifier, n.TooDeep limit specifier) :=
  decidable_of_iff (n.kind ∈ Node.referenceKinds ∧ ∃ specifier ∈ n.specifier?.toOption.join,
      ("." : Text) <+: specifier ∧ limit < Specifier.occurrences "../" specifier) <| by
    have known (specifier : Text) :
        specifier ∈ n.specifier?.toOption.join ↔ n.specifier? = .ok (some specifier) := by
      cases n.specifier? <;> simp [Except.toOption]
    constructor
    · rintro ⟨listed, specifier, read, relative, deep⟩
      exact ⟨specifier, by simpa [Node.referenceKinds] using listed, (known _).mp read, relative, deep⟩
    · rintro ⟨specifier, kind, read, relative, deep⟩
      exact ⟨by simpa [Node.referenceKinds] using kind, specifier, (known _).mpr read, relative, deep⟩

/-- A specifier that is too deep is the value of a string literal. -/
theorem Node.TooDeep.spelled {limit : Nat} {n : Node} {specifier : Text} (deep : n.TooDeep limit specifier) :
    ∃ written, n.specifierNode? = some written ∧ written.literal? = .ok (some specifier) :=
  (Node.specifier?_eq_some_iff.mp deep.known).2

theorem Node.specifier?_eq_some_iff_reference {n : Node} {specifier : Text} :
    n.specifier? = .ok (some specifier) ↔
      ∃ reference, n.reference?.toOption.join = some reference ∧ reference.specifier? = some specifier := by
  unfold specifier?
  cases n.reference? <;> simp [Except.map, Except.toOption, Option.bind_eq_some_iff]

/-- The finding that a node with a specifier deserves. Its place is counted from one. -/
def Finding.expected (path : Text) (limit : Nat) (n : Node) (specifier : Text) : Finding where
  path := path
  line := n.span.start.row + 1
  col := n.span.start.col + 1
  endLine := n.span.stop.row + 1
  endCol := n.span.stop.col + 1
  rule := "no-deep-relative-imports"
  specifier := some specifier
  message := Specifier.message specifier limit

/-- The results of a partial function stand in the order of the members that have one. -/
theorem forall₂_filterMap {α β : Type} (f : α → Option β) (list : List α) :
    List.Forall₂ (fun a b => f a = some b) (list.filter fun a => (f a).isSome)
      (list.filterMap f) := by
  induction list with
  | nil => exact .nil
  | cons a rest ih =>
    cases result : f a with
    | none => simpa [result] using ih
    | some b => simpa [result] using ih

namespace DepthRule

variable (rule : DepthRule) (path : Text)

theorem finding?_eq_some_iff (n : Node) (f : Finding) :
    rule.finding? path n = some f ↔
      ∃ specifier, n.TooDeep rule.limit specifier ∧
        f = Finding.expected path rule.limit n specifier := by
  constructor
  · intro found
    obtain ⟨reference, read, found⟩ := Option.bind_eq_some_iff.mp found
    obtain ⟨violation, checked, same⟩ := Option.map_eq_some_iff.mp found
    obtain ⟨specifier, known, classified⟩ := Option.bind_eq_some_iff.mp checked
    obtain ⟨⟨relative, deep⟩, rfl⟩ := (Specifier.classify_eq_some_iff _ _ _).mp classified
    refine ⟨specifier, ⟨?_, ?_, relative, deep⟩, ?_⟩
    · simpa [Node.referenceKinds] using Node.kind_of_reference? read
    · exact Node.specifier?_eq_some_iff_reference.mpr ⟨reference, read, known⟩
    · rw [← same, known]
      rfl
  · rintro ⟨specifier, ⟨kind, specified, relative, deep⟩, rfl⟩
    obtain ⟨reference, read, known⟩ := Node.specifier?_eq_some_iff_reference.mp specified
    have classified := (Specifier.classify_eq_some_iff specifier rule.limit _).mpr
      ⟨⟨relative, deep⟩, rfl⟩
    have checked : rule.check reference = some _ := Option.bind_eq_some_iff.mpr ⟨specifier, known, classified⟩
    rw [finding?, read, Option.bind_some, checked, Option.map_some, known]
    rfl

theorem eq_filterMap_of_findings {root : Node} {found : List Finding} (answer : rule.findings path root = .ok found) :
    found = root.preorder.filterMap (rule.finding? path) := by
  by_cases readable : ∀ n ∈ root.preorder, ¬ n.IsUnreadable
  · rw [findings_of_readable rule path readable] at answer
    exact (Except.ok.inj answer).symm
  · have failed := (findings_eq_error_iff rule path).mpr (by simpa using readable)
    cases answer.symm.trans failed

theorem mem_findings_iff {root : Node} {found : List Finding} (answer : rule.findings path root = .ok found)
    {f : Finding} : f ∈ found ↔
      ∃ n ∈ root.preorder, ∃ specifier, n.TooDeep rule.limit specifier ∧
        f = Finding.expected path rule.limit n specifier := by
  rw [eq_filterMap_of_findings rule path answer, List.mem_filterMap]
  simp only [finding?_eq_some_iff]

/-- The findings of a tree correspond one by one, in document order, to the nodes that are too deep. -/
theorem forall₂_findings {root : Node} {found : List Finding} (answer : rule.findings path root = .ok found) :
    List.Forall₂
      (fun n f => ∃ specifier, n.TooDeep rule.limit specifier ∧
        f = Finding.expected path rule.limit n specifier)
      (root.preorder.filter fun n => ∃ specifier, n.TooDeep rule.limit specifier) found := by
  have paired := forall₂_filterMap (rule.finding? path) root.preorder
  have same : (fun n => (rule.finding? path n).isSome) =
      fun n : Node => decide (∃ specifier, n.TooDeep rule.limit specifier) := by
    funext n
    rw [Bool.eq_iff_iff, Option.isSome_iff_exists]
    simp [finding?_eq_some_iff]
  rw [same, ← eq_filterMap_of_findings rule path answer] at paired
  exact paired.imp fun n f found => (finding?_eq_some_iff rule path n f).mp found

theorem inspected_eq_countP (root : Node) : inspected root = root.preorder.countP fun n =>
    n.kind = "import_statement" ∨ n.kind = "call_expression" ∨ n.kind = "export_statement" := by
  rw [inspected, Walk.select_eq_filter, ← List.countP_eq_length_filter]
  congr 1
  funext n
  simp [Node.referenceKinds]

/-- Exactness on a tree. A tree with a reference whose literal cannot be read has no answer. In every other
tree the findings correspond one by one, in document order, to the occurrences of nodes that are too deep, and
every node of one of the three kinds is looked at once. -/
theorem findings_exact (root : Node) :
    (rule.findings path root = .error .oversizedNumber ∧ ∃ n ∈ root.preorder, n.IsUnreadable) ∨
    (∀ n ∈ root.preorder, ¬ n.IsUnreadable) ∧ ∃ found, rule.findings path root = .ok found ∧
      List.Forall₂
        (fun n f => ∃ specifier, n.TooDeep rule.limit specifier ∧
          f = Finding.expected path rule.limit n specifier)
        (root.preorder.filter fun n => ∃ specifier, n.TooDeep rule.limit specifier) found ∧
      inspected root = root.preorder.countP fun n =>
        n.kind = "import_statement" ∨ n.kind = "call_expression" ∨ n.kind = "export_statement" := by
  by_cases readable : ∀ n ∈ root.preorder, ¬ n.IsUnreadable
  · have answer := findings_of_readable rule path readable
    exact .inr ⟨readable, _, answer, forall₂_findings rule path answer, inspected_eq_countP root⟩
  · have unreadable : ∃ n ∈ root.preorder, n.IsUnreadable := by simpa using readable
    exact .inl ⟨(findings_eq_error_iff rule path).mpr unreadable, unreadable⟩

def importOf (pieces : List Node) : Node where
  kind := "import_statement"
  children := [{ kind := "string", field := some "source", children := pieces }]

def besideOversized : Node where
  kind := "program"
  children := [importOf [Node.decimalReference Text.vastNumber],
    importOf [{ kind := "string_fragment", text := some (Utf8.ascii "../../../b") }]]

theorem findings_exact_oversized :
    (∃ n ∈ besideOversized.preorder, n.TooDeep 2 "../../../b") ∧
      (⟨2⟩ : DepthRule).findings "a.js" besideOversized = .error .oversizedNumber := by
  constructor
  · refine ⟨_, Node.mem_preorder_of_child (.tail _ (.head _)) (Node.mem_preorder_self _), .inl rfl, ?_, ?_, ?_⟩
    all_goals decide
  · have literal : Node.IsIllegible { kind := "string", field := some "source"
                                      children := [Node.decimalReference Text.vastNumber] } :=
      Node.isIllegible_of_decimalReference rfl (fun c => Text.isAsciiDigit_of_mem_vastNumber)
        Text.maximumDigits_lt_vastNumber (.head _)
    have unreadable : (importOf [Node.decimalReference Text.vastNumber]).IsUnreadable :=
      ⟨rfl, _, rfl, literal⟩
    have inside : importOf [Node.decimalReference Text.vastNumber] ∈ besideOversized.preorder :=
      Node.mem_preorder_of_child (.head _) (Node.mem_preorder_self _)
    rcases findings_exact ⟨2⟩ "a.js" besideOversized with ⟨failed, _⟩ | ⟨readable, _⟩
    · exact failed
    · exact absurd unreadable (readable _ inside)

end DepthRule
end ImportDepth
