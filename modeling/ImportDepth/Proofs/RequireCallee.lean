import ImportDepth.Proofs.Parentheses
import ImportDepth.Proofs.Utf8

/-! Which callees are `require`. The grammar is stated apart from the recogniser: the name itself, or a member
of the name or of that name, each in any number of parentheses with comments among them. The recogniser
accepts exactly this grammar, so no parentheses ever change its answer. -/
namespace ImportDepth.Node

structure WrittenRequire (kind : String) (n : Node) : Prop where
  kind : n.kind = kind
  text : n.text = some (Utf8.ascii "require")

structure RequireMember (n : Node) : Prop where
  kind : n.kind = "member_expression"
  named : (∃ object, n.childByField? "object" = some object ∧
      Parenthesized (WrittenRequire "identifier") object) ∨
    ∃ property, n.childByField? "property" = some property ∧ WrittenRequire "property_identifier" property

/-- Two members that differ in the parentheses around their objects. -/
structure WrapsObject (m n : Node) : Prop where
  kinds : m.kind = "member_expression" ∧ n.kind = "member_expression"
  objects : ∃ outer object, m.childByField? "object" = some outer ∧
    n.childByField? "object" = some object ∧ outer.Wraps object
  properties : m.childByField? "property" = n.childByField? "property"

variable {n outer : Node}

/-- A name without U+FFFD is read only from the bytes that it is written with. -/
theorem isNamed_iff {name : Text} (kind : String) (scalar : name.IsScalar)
    (whole : CodePoint.replacement ∉ name) :
    n.isNamed kind name = true ↔ n.kind = kind ∧ n.text = some (Utf8.encode name) := by
  rw [isNamed, decodedText?, Bool.and_eq_true, decide_eq_true_eq, decide_eq_true_eq, Option.map_eq_some_iff]
  simp only [Utf8.decodeLossy_eq_iff scalar whole, exists_eq_right]

theorem isNamed_require_iff (kind : String) : n.isNamed kind "require" = true ↔ WrittenRequire kind n := by
  have bytes : Utf8.encode "require" = Utf8.ascii "require" := by decide
  rw [isNamed_iff kind (Text.IsScalar.ofString _) (by decide), bytes]
  constructor
  · rintro ⟨kind, text⟩
    exact ⟨kind, text⟩
  · intro written
    exact ⟨written.kind, written.text⟩

theorem isRequireName_unparenthesize_iff :
    n.unparenthesize.isRequireName = true ↔ Parenthesized (WrittenRequire "identifier") n := by
  rw [isRequireName, isNamed_require_iff, parenthesized_iff]
  intro n written
  rw [written.kind]
  decide

theorem isRequireCallee_iff :
    n.isRequireCallee = true ↔
      Parenthesized (WrittenRequire "identifier") n ∨ Parenthesized RequireMember n := by
  have member : Parenthesized RequireMember n ↔ RequireMember n.unparenthesize := by
    apply parenthesized_iff
    intro n member
    rw [member.kind]
    decide
  rw [member, ← isRequireName_unparenthesize_iff, isRequireCallee]
  simp only [Bool.or_eq_true, Bool.and_eq_true, decide_eq_true_eq, Option.any_eq_true]
  apply or_congr_right
  simp only [isRequireName_unparenthesize_iff, isNamed_require_iff]
  constructor
  · rintro ⟨kind, named⟩
    exact ⟨kind, named⟩
  · intro member
    exact ⟨member.kind, member.named⟩

theorem Wraps.isRequireName (wraps : outer.Wraps n) :
    outer.unparenthesize.isRequireName = n.unparenthesize.isRequireName :=
  wraps.congr fun _ _ => rfl

theorem Wraps.isRequireCallee (wraps : outer.Wraps n) : outer.isRequireCallee = n.isRequireCallee := by
  have kind : outer.unparenthesize.kind = n.unparenthesize.kind := wraps.congr fun _ _ => rfl
  have field (name : String) : outer.unparenthesize.childByField? name = n.unparenthesize.childByField? name :=
    wraps.congr (f := (·.childByField? name)) fun _ _ => rfl
  rw [Node.isRequireCallee, Node.isRequireCallee, wraps.isRequireName, kind, field, field]

theorem WrapsObject.isRequireCallee {m : Node} (wraps : m.WrapsObject n) :
    m.isRequireCallee = n.isRequireCallee := by
  have unwrapped {member : Node} (kind : member.kind = "member_expression") :
      member.unparenthesize = member := by
    apply unparenthesize_of_kind
    rw [kind]
    decide
  obtain ⟨outer, object, outside, inside, around⟩ := wraps.objects
  have differ : m.isRequireName = false ∧ n.isRequireName = false := by
    simp [isRequireName, isNamed, wraps.kinds]
  rw [Node.isRequireCallee, Node.isRequireCallee, unwrapped wraps.kinds.1, unwrapped wraps.kinds.2, outside,
    inside, wraps.properties, Option.any_some, Option.any_some, around.isRequireName, differ.1, differ.2,
    wraps.kinds.1, wraps.kinds.2]

/-- The recogniser accepts exactly the grammar; no parentheses around a callee or around the object of a member
change its answer; and taking parentheses off ends on every tree, with a node that encloses nothing. -/
theorem isRequireCallee_exact (n : Node) :
    (n.isRequireCallee = true ↔
      Parenthesized (WrittenRequire "identifier") n ∨ Parenthesized RequireMember n) ∧
    (∀ outer : Node, outer.Wraps n → outer.isRequireCallee = n.isRequireCallee) ∧
    (∀ m : Node, m.WrapsObject n → m.isRequireCallee = n.isRequireCallee) ∧
    Acc (fun inner outer : Node => outer.Encloses inner) n ∧
    Parenthesized (· = n.unparenthesize) n ∧ ∀ inner, ¬ n.unparenthesize.Encloses inner := by
  refine ⟨isRequireCallee_iff, fun _ => Wraps.isRequireCallee, fun _ => WrapsObject.isRequireCallee,
    acc_encloses n, ?_, not_encloses_unparenthesize n⟩
  exact parenthesized_of_unparenthesize rfl

def inParentheses (inside : Node) : Node where
  kind := "parenthesized_expression"
  children := [{ kind := "(", named := false }, { kind := "comment" }, inside, { kind := ")", named := false }]

def requireName : Node := { kind := "identifier", text := some (Utf8.ascii "require") }

def resolveOf (object : Node) : Node where
  kind := "member_expression"
  children := [{ object with field := some "object" }, { kind := ".", named := false },
    { kind := "property_identifier", text := some (Utf8.ascii "resolve"), field := some "property" }]

theorem isRequireCallee_exact_resolve :
    (inParentheses (resolveOf requireName)).Wraps (resolveOf requireName) ∧
      (resolveOf (inParentheses (inParentheses requireName))).WrapsObject (resolveOf requireName) ∧
      (inParentheses (resolveOf requireName)).isRequireCallee = true ∧
      (resolveOf (inParentheses (inParentheses requireName))).isRequireCallee = true := by
  have encloses (inside : Node) (named : inside.named = true) (other : inside.kind ≠ "comment") :
      (inParentheses inside).Encloses inside := ⟨rfl, by simp [inParentheses, namedChildren, named, other]⟩
  have callee : (inParentheses (resolveOf requireName)).Wraps (resolveOf requireName) :=
    .wrapped (encloses _ rfl (by decide)) (.bare rfl)
  have object :
      (resolveOf (inParentheses (inParentheses requireName))).WrapsObject (resolveOf requireName) := by
    refine ⟨⟨rfl, rfl⟩, ⟨_, _, rfl, rfl, ?_⟩, rfl⟩
    -- The outer parentheses fill the field of the object, which their own shape does not show.
    have around := encloses (inParentheses requireName) rfl (by decide)
    exact .wrapped ⟨around.kind, around.only⟩ (.wrapped (encloses _ rfl (by decide)) (.bare rfl))
  obtain ⟨recognised, wrapping, wrappingObject, _⟩ := isRequireCallee_exact (resolveOf requireName)
  have accepted : (resolveOf requireName).isRequireCallee = true := by
    apply recognised.mpr
    exact .inr (.bare ⟨rfl, .inl ⟨_, rfl, .bare ⟨rfl, rfl⟩⟩⟩)
  exact ⟨callee, object, (wrapping _ callee).trans accepted, (wrappingObject _ object).trans accepted⟩

end ImportDepth.Node
