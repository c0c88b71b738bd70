import ImportDepth.Proofs.Literal
import ImportDepth.Proofs.RequireCallee
import Mathlib.Data.List.Basic

/-! The forms of a reference. A literal is reached in a different way in each of them: through a field of a
statement, or as the first argument of a call. Whatever stands around it, every form with the same literal has
the same specifier, so the rule finds the same violation and says the same about each. -/
namespace ImportDepth

namespace Node

/-- A child fills a field of a node, and none before it does. The field belongs to the place of the child. -/
def Fills (child : Node) (field : String) (n : Node) : Prop :=
  ∃ front back, n.children = front ++ { child with field := some field } :: back ∧
    ∀ other ∈ front, other.field ≠ some field

/-- A node is the first of the arguments. Comments and punctuation may stand before it, and anything behind it. -/
def IsFirstIn (argument arguments : Node) : Prop :=
  ∃ before after field, arguments.children = before ++ { argument with field := field } :: after ∧
    ∀ other ∈ before, other.kind = "comment" ∨ other.named = false

structure IsCallOf (n callee argument : Node) : Prop where
  kind : n.kind = "call_expression"
  function : callee.Fills "function" n
  arguments : ∃ arguments : Node, arguments.Fills "arguments" n ∧ argument.IsFirstIn arguments

/-- The four forms in which a node can refer to a module by a literal, with the reference that it is then if the
literal has a specifier. An export may be a wildcard, and may have fields for a declaration or a value. -/
inductive Refers (literal : Node) (specifier : Option Text) : Node → Reference → Prop where
  | staticImport {n : Node} (kind : n.kind = "import_statement") (source : literal.Fills "source" n) :
      Refers literal specifier n (.staticImport specifier)
  | dynamicImport {n callee : Node} (call : n.IsCallOf callee literal) (imports : callee.kind = "import") :
      Refers literal specifier n (.dynamicImport specifier)
  | require {n callee : Node} (call : n.IsCallOf callee literal) (requires : callee.isRequireCallee = true) :
      Refers literal specifier n (.require specifier)
  | reExport {n : Node} (kind : n.kind = "export_statement") (source : literal.Fills "source" n) :
      Refers literal specifier n (.reExport specifier n.isWildcardExport)

variable {n child callee argument arguments literal : Node} {field : String} {reference : Reference}
  {specifier : Option Text}

theorem Fills.childByField?_eq (fills : child.Fills field n) :
    n.childByField? field = some { child with field := some field } := by
  obtain ⟨front, back, children, absent⟩ := fills
  have passed : front.find? (fun other => other.field = some field) = none := by
    simpa using absent
  rw [childByField?, children, List.find?_append, passed]
  simp

theorem IsFirstIn.find?_eq (first : argument.IsFirstIn arguments) (significant : argument.isSignificant = true) :
    ∃ field, arguments.children.find? (·.isSignificant) = some { argument with field := field } := by
  obtain ⟨before, after, field, children, silent⟩ := first
  have passed : before.find? (·.isSignificant) = none := by
    rw [List.find?_eq_none]
    intro other member
    rcases silent other member with comment | punctuation
    · simp [isSignificant, comment]
    · simp [isSignificant, punctuation]
  have found : ({ argument with field := field } : Node).isSignificant = true := significant
  exact ⟨field, by rw [children, List.find?_append, passed, List.find?_cons_of_pos found, Option.none_or]⟩

/-- The specifier of a call is spelled by its first argument, if this is not passed over. -/
theorem IsCallOf.specifierNode?_eq (call : n.IsCallOf callee argument)
    (significant : argument.isSignificant = true) :
    ∃ field, n.specifierNode? = some { argument with field := field } := by
  obtain ⟨arguments, fills, first⟩ := call.arguments
  obtain ⟨field, found⟩ := first.find?_eq significant
  refine ⟨field, ?_⟩
  simp only [specifierNode?, call.kind, if_true, firstArgument?, fills.childByField?_eq, Option.bind_eq_bind,
    Option.bind_some]
  exact found

theorem isRequireCallee_withField (n : Node) (field : Option String) :
    { n with field := field }.isRequireCallee = n.isRequireCallee :=
  Wraps.isRequireCallee (.bare rfl)

/-- No callee is taken for both kinds of call. -/
theorem kind_ne_import_of_isRequireCallee (requires : callee.isRequireCallee = true) :
    callee.kind ≠ "import" := by
  have other {X : Node → Prop} {kind : String} (bare : ∀ n, X n → n.kind = kind)
      (different : kind ≠ "import") (inside : Parenthesized X callee) : callee.kind ≠ "import" := by
    cases inside with
    | bare inside => rwa [bare _ inside]
    | wrapped around _ =>
      rw [around.kind]
      decide
  rcases isRequireCallee_iff.mp requires with name | member
  · exact other (fun _ written => written.kind) (by decide) name
  · exact other (fun _ member => member.kind) (by decide) member

/-- Every form spells its specifier by the literal, and is completed by it to the reference that it is. -/
theorem Refers.form?_eq (refers : Refers literal specifier n reference) (significant : literal.isSignificant = true) :
    (∃ form, n.form? = some form ∧ form specifier = reference) ∧
      ∃ field, n.specifierNode? = some { literal with field := field } := by
  cases refers with
  | staticImport kind source =>
    refine ⟨⟨.staticImport, by simp only [form?, kind], rfl⟩, some "source", ?_⟩
    rw [specifierNode?, if_neg (by simp [kind]), source.childByField?_eq]
  | dynamicImport call imports =>
    refine ⟨⟨.dynamicImport, ?_, rfl⟩, call.specifierNode?_eq significant⟩
    simp only [form?, call.kind, call.function.childByField?_eq, isDynamicImportCallee, imports, decide_true,
      if_true]
  | require call requires =>
    refine ⟨⟨.require, ?_, rfl⟩, call.specifierNode?_eq significant⟩
    simp only [form?, call.kind, call.function.childByField?_eq, isDynamicImportCallee,
      kind_ne_import_of_isRequireCallee requires, isRequireCallee_withField, requires, decide_false,
      Bool.false_eq_true, if_false, if_true]
  | reExport kind source =>
    refine ⟨⟨(.reExport · n.isWildcardExport), ?_, rfl⟩, some "source", ?_⟩
    · simp only [form?, kind, source.childByField?_eq]
      rfl
    · rw [specifierNode?, if_neg (by simp [kind]), source.childByField?_eq]

/-- Every form is extracted as the reference that it is. -/
theorem Refers.reference?_eq (refers : Refers literal specifier n reference)
    (significant : literal.isSignificant = true) (known : literal.literal? = .ok specifier) :
    n.reference? = .ok (some reference) := by
  obtain ⟨⟨form, formed, rfl⟩, field, spells⟩ := refers.form?_eq significant
  have same : ({ literal with field := field } : Node).literal? = .ok specifier := known
  rw [reference?, formed, spells]
  dsimp only
  rw [same]
  rfl

theorem Refers.isUnreadable (refers : Refers literal specifier n reference)
    (significant : literal.isSignificant = true) (illegible : literal.IsIllegible) : n.IsUnreadable := by
  obtain ⟨⟨form, formed, _⟩, field, spells⟩ := refers.form?_eq significant
  exact ⟨by rw [formed]; rfl, _, spells, illegible⟩

theorem Refers.specifier?_eq (refers : Refers literal specifier n reference) :
    reference.specifier? = specifier := by
  cases refers <;> rfl

end Node

namespace DepthRule

open Node (Refers)

variable {literal : Node} (rule : DepthRule)

/-- References with one outcome are all reported, in the same words, or all passed over. -/
theorem reports_eq {α : Type} {held : List (α × Reference)} {outcome : Option Violation}
    (same : ∀ entry ∈ held, rule.check entry.2 = outcome) :
    rule.reports held = held.filterMap fun entry => outcome.map fun violation => (entry.1, violation.message) := by
  rw [reports]
  apply List.filterMap_congr
  rintro ⟨holder, reference⟩ member
  rw [← same _ member]

/-- All forms are treated alike. If the literal cannot be read, no form can be extracted. Otherwise whatever
refers by it is extracted with the specifier that it spells, and is judged as this specifier is: any nodes that
refer by it are reported once each, in their order and with one message, if the specifier violates the limit,
and otherwise none of them is. -/
theorem reports_alike (kind : literal.kind = "string") (named : literal.named = true) :
    (literal.IsIllegible ∧ literal.literal? = .error .oversizedNumber ∧
      ∀ specifier n reference, Refers literal specifier n reference → n.reference? = .error .oversizedNumber) ∨
    ¬ literal.IsIllegible ∧ ∃ specifier, literal.literal? = .ok (some specifier) ∧
      (∀ n reference, Refers literal (some specifier) n reference →
        n.reference? = .ok (some reference) ∧ reference.specifier? = some specifier ∧
        rule.check reference = Specifier.classify specifier rule.limit) ∧
      ∀ held : List (Node × Reference), (∀ entry ∈ held, Refers literal (some specifier) entry.1 entry.2) →
        (∀ violation, Specifier.classify specifier rule.limit = some violation →
          rule.reports held = held.map fun entry => (entry.1, violation.message)) ∧
        (Specifier.classify specifier rule.limit = none → rule.reports held = []) := by
  have significant : literal.isSignificant = true := by simp [Node.isSignificant, kind, named]
  by_cases illegible : literal.IsIllegible
  · refine .inl ⟨illegible, Node.literal?_eq_error_iff.mpr illegible, ?_⟩
    intro specifier n reference refers
    exact Node.reference?_eq_error_iff.mpr (refers.isUnreadable significant illegible)
  · obtain ⟨specifier, spelled⟩ := Node.literal?_of_legible kind illegible
    have judged {n : Node} {reference : Reference} (refers : Refers literal (some specifier) n reference) :
        rule.check reference = Specifier.classify specifier rule.limit := by
      rw [check, refers.specifier?_eq, Option.bind_some]
    refine .inr ⟨illegible, specifier, spelled, ?_, ?_⟩
    · intro n reference refers
      exact ⟨refers.reference?_eq significant spelled, refers.specifier?_eq, judged refers⟩
    · intro held refer
      have reported := reports_eq rule fun entry member => judged (refer entry member)
      constructor
      · intro violation violated
        simp [reported, violated]
      · intro fine
        simp [reported, fine]

def threeUp : Node where
  kind := "string"
  children := [{ kind := "string_fragment", text := some (Utf8.ascii "../../../x") }]

/-- Arguments with a comment before the literal and another argument behind it. -/
def threeUpFirst : Node where
  kind := "arguments"
  children := [{ kind := "(", named := false }, { kind := "comment" }, threeUp, { kind := "object" }]

def callOf (callee : Node) : Node where
  kind := "call_expression"
  children := [{ callee with field := some "function" }, { threeUpFirst with field := some "arguments" }]

/-- One node of each form; the export is a wildcard with a declaration. -/
def fourForms : List (Node × Reference) :=
  [({ kind := "import_statement"
      children := [{ kind := "import", named := false }, { threeUp with field := some "source" }] },
      .staticImport (some "../../../x")),
    (callOf { kind := "import" }, .dynamicImport (some "../../../x")),
    (callOf (Node.inParentheses Node.requireName), .require (some "../../../x")),
    ({ kind := "export_statement"
       children := [{ kind := "*", named := false },
        { kind := "lexical_declaration", field := some "declaration" }, { threeUp with field := some "source" }] },
      .reExport (some "../../../x") true)]

def oversized : Node where
  kind := "string"
  children := [Node.decimalReference Text.vastNumber]

theorem reports_alike_fourForms :
    ((∀ entry ∈ fourForms, Refers threeUp (some "../../../x") entry.1 entry.2) ∧
      (⟨2⟩ : DepthRule).reports fourForms =
        (fourForms.map fun entry => (entry.1, Specifier.message "../../../x" 2)) ∧
      (⟨3⟩ : DepthRule).reports fourForms = []) ∧
    ∀ specifier n reference, Refers oversized specifier n reference → n.reference? = .error .oversizedNumber := by
  have call (callee : Node) : (callOf callee).IsCallOf callee threeUp := by
    have first : threeUp.IsFirstIn threeUpFirst :=
      ⟨[{ kind := "(", named := false }, { kind := "comment" }], _, none, rfl, by simp⟩
    exact ⟨rfl, ⟨[], _, rfl, by simp⟩, threeUpFirst,
      ⟨[{ callee with field := some "function" }], _, rfl, by simp⟩, first⟩
  have refer : ∀ entry ∈ fourForms, Refers threeUp (some "../../../x") entry.1 entry.2 := by
    simp only [fourForms, List.forall_mem_cons, List.not_mem_nil, false_implies, implies_true, and_true]
    refine ⟨?_, ?_, ?_, ?_⟩
    · exact .staticImport rfl ⟨[_], [], rfl, by simp⟩
    · exact .dynamicImport (call _) rfl
    · exact .require (call _) (by decide)
    · exact .reExport rfl ⟨[_, _], [], rfl, by simp⟩
  have spelled : threeUp.literal? = .ok (some ("../../../x" : Text)) := by decide
  have illegible : oversized.IsIllegible :=
    Node.isIllegible_of_decimalReference rfl (fun c => Text.isAsciiDigit_of_mem_vastNumber)
      Text.maximumDigits_lt_vastNumber (.head _)
  refine ⟨⟨refer, ?_, ?_⟩, ?_⟩
  · rcases @reports_alike threeUp ⟨2⟩ rfl rfl with ⟨_, failed, _⟩ | ⟨_, specifier, same, _, alike⟩
    · cases failed.symm.trans spelled
    · cases same.symm.trans spelled
      exact (alike fourForms refer).1 ⟨_, 2, 3⟩ (by decide)
  · rcases @reports_alike threeUp ⟨3⟩ rfl rfl with ⟨_, failed, _⟩ | ⟨_, specifier, same, _, alike⟩
    · cases failed.symm.trans spelled
    · cases same.symm.trans spelled
      exact (alike fourForms refer).2 (by decide)
  · rcases @reports_alike oversized ⟨2⟩ rfl rfl with ⟨_, _, failed⟩ | ⟨legible, _⟩
    · exact failed
    · exact absurd illegible legible

end DepthRule
end ImportDepth
