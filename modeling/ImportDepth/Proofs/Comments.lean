import ImportDepth.Proofs.Findings
import ImportDepth.Proofs.Parentheses

/-! Comments in a tree mean nothing. A tree is compared with one that has further comments among the
children of any of its nodes, string literals apart, and whose nodes stand anywhere. Each question that
is asked about the children of a node is shown to pass over the comments, so that corresponding nodes
are the same references and the same findings are reported in the same order. -/
namespace ImportDepth

namespace Node

structure IsComment (c : Node) : Prop where
  kind : c.kind = "comment"
  named : c.named = true
  field : c.field = none
  leaf : c.children = []

theorem IsComment.reference?_eq {c : Node} (comment : c.IsComment) : c.reference? = .ok none := by
  simp only [reference?, form?, comment.kind]
  rfl

/-- The second list has the members of the first, each in its related form and in the same order, and
comments anywhere between them. -/
inductive Interspersed (R : Node → Node → Prop) : List Node → List Node → Prop
  | nil : Interspersed R [] []
  | keep {n n' : Node} {rest rest' : List Node} :
      R n n' → Interspersed R rest rest' → Interspersed R (n :: rest) (n' :: rest')
  | insert {c : Node} {rest rest' : List Node} :
      c.IsComment → Interspersed R rest rest' → Interspersed R rest (c :: rest')

/-- The second tree is the first with comments inserted anywhere but in string literals. The places of
the nodes may change. -/
inductive Commented : Node → Node → Prop
  | literal {text : Option Bytes} {named : Bool} {field : Option String} {span span' : Span}
      {pieces pieces' : List Node} :
      List.Forall₂ Commented pieces pieces' →
      Commented ⟨"string", text, named, field, span, pieces⟩ ⟨"string", text, named, field, span', pieces'⟩
  | other {kind : String} {text : Option Bytes} {named : Bool} {field : Option String} {span span' : Span}
      {children children' : List Node} :
      kind ≠ "string" → Interspersed Commented children children' →
      Commented ⟨kind, text, named, field, span, children⟩ ⟨kind, text, named, field, span', children'⟩

theorem rel_cases {R : Node → Node → Prop} {found found' : Option Node} (related : Option.Rel R found found') :
    found = none ∧ found' = none ∨ ∃ n n', found = some n ∧ found' = some n' ∧ R n n' := by
  cases related with
  | none => exact .inl ⟨rfl, rfl⟩
  | some same => exact .inr ⟨_, _, rfl, rfl, same⟩

theorem rel_congr {R : Node → Node → Prop} {found found' : Option Node} {β : Type} (f : Option Node → β)
    (related : Option.Rel R found found') (agree : ∀ n n', R n n' → f (some n) = f (some n')) :
    f found = f found' := by
  cases related with
  | none => rfl
  | some same => exact agree _ _ same

namespace Interspersed

variable {R : Node → Node → Prop} {list list' : List Node}

theorem of_forall₂ (related : List.Forall₂ R list list') : Interspersed R list list' := by
  induction related with
  | nil => exact .nil
  | cons same _ ih => exact .keep same ih

theorem append {back back' : List Node} (front : Interspersed R list list')
    (behind : Interspersed R back back') : Interspersed R (list ++ back) (list' ++ back') := by
  induction front with
  | nil => exact behind
  | keep same _ ih => exact .keep same ih
  | insert comment _ ih => exact .insert comment ih

/-- A test that no comment passes leaves the related members, and nothing else. -/
theorem filter {p : Node → Bool} (agree : ∀ n n', R n n' → p n = p n')
    (silent : ∀ c : Node, c.IsComment → p c = false) (related : Interspersed R list list') :
    List.Forall₂ R (list.filter p) (list'.filter p) := by
  induction related with
  | nil => exact .nil
  | @keep n n' _ _ same _ ih =>
    by_cases passed : p n
    · have passed' := agree n n' same ▸ passed
      rw [List.filter_cons_of_pos passed, List.filter_cons_of_pos passed']
      exact .cons same ih
    · have failed' := agree n n' same ▸ passed
      rw [List.filter_cons_of_neg passed, List.filter_cons_of_neg failed']
      exact ih
  | @insert c _ _ comment _ ih =>
    rw [List.filter_cons_of_neg (by simp [silent c comment])]
    exact ih

theorem find? {p : Node → Bool} (agree : ∀ n n', R n n' → p n = p n')
    (silent : ∀ c : Node, c.IsComment → p c = false) (related : Interspersed R list list') :
    Option.Rel R (list.find? p) (list'.find? p) := by
  have head {kept kept' : List Node} (matched : List.Forall₂ R kept kept') :
      Option.Rel R kept.head? kept'.head? := by
    cases matched with
    | nil => exact .none
    | cons same _ => exact .some same
  rw [← List.head?_filter, ← List.head?_filter]
  exact head (related.filter agree silent)

theorem any {p : Node → Bool} (agree : ∀ n n', R n n' → p n = p n')
    (silent : ∀ c : Node, c.IsComment → p c = false) (related : Interspersed R list list') :
    list.any p = list'.any p := by
  rw [← List.isSome_find?, ← List.isSome_find?]
  exact rel_congr Option.isSome (related.find? agree silent) fun _ _ _ => rfl

theorem filterMap {β : Type} {f : Node → Option β} (agree : ∀ n n', R n n' → f n = f n')
    (silent : ∀ c : Node, c.IsComment → f c = none) (related : Interspersed R list list') :
    list.filterMap f = list'.filterMap f := by
  induction related with
  | nil => rfl
  | keep same _ ih => rw [List.filterMap_cons, List.filterMap_cons, agree _ _ same, ih]
  | insert comment _ ih => rw [ih, List.filterMap_cons_none (silent _ comment)]

theorem preorderAll {S : Node → Node → Prop} (related : Interspersed R list list')
    (each : ∀ n ∈ list, ∀ n', R n n' → Interspersed S n.preorder n'.preorder) :
    Interspersed S (preorderAll list) (preorderAll list') := by
  induction related with
  | nil => exact .nil
  | keep same _ ih =>
    rw [Node.preorderAll, Node.preorderAll]
    apply append
    · exact each _ List.mem_cons_self _ same
    · exact ih fun n member => each n (List.mem_cons_of_mem _ member)
  | insert comment _ ih =>
    rw [Node.preorderAll, preorder_eq, comment.leaf]
    exact .insert comment (ih each)

end Interspersed

namespace Commented

variable {n n' : Node}

theorem kind (commented : Commented n n') : n.kind = n'.kind := by
  cases commented <;> rfl

theorem decodedText? (commented : Commented n n') : n.decodedText? = n'.decodedText? := by
  cases commented <;> rfl

theorem named (commented : Commented n n') : n.named = n'.named := by
  cases commented <;> rfl

theorem field (commented : Commented n n') : n.field = n'.field := by
  cases commented <;> rfl

theorem children (commented : Commented n n') : Interspersed Commented n.children n'.children := by
  cases commented with
  | literal pieces => exact .of_forall₂ pieces
  | other _ children => exact children

theorem isSignificant (commented : Commented n n') : n.isSignificant = n'.isSignificant := by
  rw [Node.isSignificant, Node.isSignificant, commented.named, commented.kind]

theorem isNamed (commented : Commented n n') (kind : String) (name : Text) :
    n.isNamed kind name = n'.isNamed kind name := by
  rw [Node.isNamed, Node.isNamed, commented.kind, commented.decodedText?]

theorem significant (commented : Commented n n') :
    List.Forall₂ Commented (n.children.filter (·.isSignificant)) (n'.children.filter (·.isSignificant)) :=
  commented.children.filter (fun _ _ => isSignificant) fun c comment => by
    simp [Node.isSignificant, comment.kind]

theorem childByField? (commented : Commented n n') (field : String) :
    Option.Rel Commented (n.childByField? field) (n'.childByField? field) :=
  commented.children.find? (fun m m' same => by rw [same.field]) fun c comment => by
    simp [comment.field]

theorem firstArgument? (call : Commented n n') :
    Option.Rel Commented n.firstArgument? n'.firstArgument? := by
  rw [Node.firstArgument?, Node.firstArgument?]
  rcases rel_cases (call.childByField? "arguments") with ⟨absent, absent'⟩ | ⟨_, _, found, found', arguments⟩
  · rw [absent, absent']
    exact .none
  · rw [found, found']
    exact arguments.children.find? (fun _ _ => isSignificant) fun c comment => by
      simp [Node.isSignificant, comment.kind]

theorem piece (commented : Commented n n') : Literal.piece n = Literal.piece n' := by
  rw [Literal.piece, Literal.piece, commented.kind, commented.decodedText?]

/-- No comment stands in a string literal, so its pieces correspond one by one. -/
theorem literal? (commented : Commented n n') : n.literal? = n'.literal? := by
  cases commented with
  | literal pieces =>
    rw [Node.literal?, Node.literal?, if_pos rfl, if_pos rfl, namedChildren, namedChildren]
    congr 1
    induction pieces with
    | nil => rfl
    | cons same _ ih =>
      simp only [List.filter_cons, same.named]
      split
      · rw [List.mapM_cons, List.mapM_cons, same.piece, ih]
      · exact ih
  | other other _ => rw [Node.literal?, Node.literal?, if_neg other, if_neg other]

theorem unparenthesize (commented : Commented n n') : Commented n.unparenthesize n'.unparenthesize := by
  induction n using Node.induct_children generalizing n' with
  | step n ih =>
    -- The significant children correspond one by one, so either both nodes have a single one or neither has.
    by_cases single : n.kind = "parenthesized_expression" ∧
        ∃ inner, n.children.filter (·.isSignificant) = [inner]
    · obtain ⟨kind, inner, one⟩ := single
      have member : inner ∈ n.children := List.mem_of_mem_filter (one ▸ List.mem_singleton_self inner)
      have matched := commented.significant
      rw [one] at matched
      obtain ⟨inner', rest', same, none, one'⟩ := List.forall₂_cons_left_iff.mp matched
      rw [List.forall₂_nil_left_iff.mp none] at one'
      rw [unparenthesize_of_single kind one, unparenthesize_of_single (commented.kind ▸ kind) one']
      exact ih inner member same
    · have single' : ¬ (n'.kind = "parenthesized_expression" ∧
          ∃ inner, n'.children.filter (·.isSignificant) = [inner]) := by
        rintro ⟨kind, inner', one'⟩
        have matched := commented.significant
        rw [one'] at matched
        obtain ⟨inner, rest, _, none, one⟩ := List.forall₂_cons_right_iff.mp matched
        rw [List.forall₂_nil_right_iff.mp none] at one
        exact single ⟨commented.kind.trans kind, inner, one⟩
      rw [unparenthesize_eq_self single, unparenthesize_eq_self single']
      exact commented

theorem isRequireName (commented : Commented n n') : n.isRequireName = n'.isRequireName :=
  commented.isNamed "identifier" "require"

theorem isDynamicImportCallee (callee : Commented n n') :
    n.isDynamicImportCallee = n'.isDynamicImportCallee := by
  rw [Node.isDynamicImportCallee, Node.isDynamicImportCallee, callee.kind]

theorem isRequireCallee (callee : Commented n n') : n.isRequireCallee = n'.isRequireCallee := by
  have bare := callee.unparenthesize
  have object : (n.unparenthesize.childByField? "object").any (·.unparenthesize.isRequireName) =
      (n'.unparenthesize.childByField? "object").any (·.unparenthesize.isRequireName) :=
    rel_congr (Option.any (·.unparenthesize.isRequireName)) (bare.childByField? "object")
      fun _ _ same => same.unparenthesize.isRequireName
  have property :
      (n.unparenthesize.childByField? "property").any (·.isNamed "property_identifier" "require") =
        (n'.unparenthesize.childByField? "property").any (·.isNamed "property_identifier" "require") :=
    rel_congr (Option.any (·.isNamed "property_identifier" "require")) (bare.childByField? "property")
      fun _ _ same => same.isNamed _ _
  rw [Node.isRequireCallee, Node.isRequireCallee, bare.isRequireName, bare.kind, object, property]

theorem isWildcardExport (commented : Commented n n') : n.isWildcardExport = n'.isWildcardExport :=
  commented.children.any (fun m m' same => by rw [same.kind]) fun c comment => by
    simp [comment.kind]

theorem isSome_childByField? (commented : Commented n n') (field : String) :
    (n.childByField? field).isSome = (n'.childByField? field).isSome :=
  rel_congr Option.isSome (commented.childByField? field) fun _ _ _ => rfl

theorem form? (commented : Commented n n') : n.form? = n'.form? := by
  rw [Node.form?, Node.form?, ← commented.kind]
  split
  · rfl
  · rcases rel_cases (commented.childByField? "function") with
      ⟨absent, absent'⟩ | ⟨_, _, found, found', callee⟩
    · rw [absent, absent']
    · simp only [found, found', callee.isDynamicImportCallee, callee.isRequireCallee]
  · simp only [← Option.not_isSome, commented.isWildcardExport, commented.isSome_childByField?]
  · rfl

theorem specifierNode? (commented : Commented n n') :
    Option.Rel Commented n.specifierNode? n'.specifierNode? := by
  rw [Node.specifierNode?, Node.specifierNode?, ← commented.kind]
  split
  · exact commented.firstArgument?
  · exact commented.childByField? "source"

theorem reference? (commented : Commented n n') : n.reference? = n'.reference? := by
  rw [Node.reference?, Node.reference?, commented.form?]
  rcases rel_cases commented.specifierNode? with ⟨absent, absent'⟩ | ⟨_, _, found, found', written⟩
  · rw [absent, absent']
  · rw [found, found']
    cases n'.form? with
    | none => rfl
    | some form =>
      dsimp only
      rw [written.literal?]

/-- The nodes of the two trees correspond in document order, and the others are comments. -/
theorem preorder (commented : Commented n n') :
    Interspersed (fun m m' => Commented m m' ∧ m.reference? = m'.reference?) n.preorder n'.preorder := by
  induction n using Node.induct_children generalizing n' with
  | step n ih =>
    rw [preorder_eq, preorder_eq]
    apply Interspersed.keep ⟨commented, commented.reference?⟩
    exact commented.children.preorderAll fun child member _ same => ih child member same

end Commented
end Node

namespace DepthRule

open Node (Commented Interspersed)

variable (rule : DepthRule) (path : Text)

theorem finding?_comment {c : Node} (comment : c.IsComment) : rule.finding? path c = none := by
  rw [finding?, comment.reference?_eq]
  rfl

/-- What is said about a node depends on the reference that it is, not on its place. -/
theorem finding?_said {n n' : Node} (reference : n.reference? = n'.reference?) :
    (rule.finding? path n).map (fun f => (f.specifier, f.message)) =
      (rule.finding? path n').map (fun f => (f.specifier, f.message)) := by
  simp only [finding?, reference]
  cases n'.reference?.toOption.join with
  | none => rfl
  | some reference => simp only [Option.bind_some, Option.map_map, Function.comp_def, Finding.about]

/-- Comments never change what is reported: the same specifiers and messages come in the same order, or there
is no answer for either tree, and the nodes that correspond are the same references. -/
theorem findings_of_commented {t t' : Node} (commented : Commented t t') :
    (rule.findings path t).map (List.map fun f => (f.specifier, f.message)) =
        (rule.findings path t').map (List.map fun f => (f.specifier, f.message)) ∧
      Interspersed (fun n n' => Commented n n' ∧ n.reference? = n'.reference?) t.preorder t'.preorder := by
  have told : (t.preorder.filterMap (rule.finding? path)).map (fun f => (f.specifier, f.message)) =
      (t'.preorder.filterMap (rule.finding? path)).map (fun f => (f.specifier, f.message)) := by
    rw [List.map_filterMap, List.map_filterMap]
    apply commented.preorder.filterMap
    · rintro n n' ⟨_, reference⟩
      exact finding?_said rule path reference
    · intro c comment
      rw [finding?_comment rule path comment, Option.map_none]
  have unreadable : t.preorder.any (·.reference?.toOption.isNone) =
      t'.preorder.any (·.reference?.toOption.isNone) := by
    apply commented.preorder.any
    · rintro n n' ⟨_, reference⟩
      rw [reference]
    · intro c comment
      rw [comment.reference?_eq]
      rfl
  refine ⟨?_, commented.preorder⟩
  rw [findings_eq, findings_eq, unreadable]
  split
  · rfl
  · exact congrArg Except.ok told

/-- A call of `require` on a line of its own, with the same nodes in front of its callee, around the
name in the parentheses of its callee, and in front of its argument. -/
def parenthesizedRequire (row : Nat) (between : List Node) : Node where
  kind := "call_expression"
  span := ⟨⟨row, 0⟩, ⟨row + 1, 0⟩⟩
  children := between ++ [
    { kind := "parenthesized_expression", field := some "function"
      children := [{ kind := "(", named := false }] ++ between ++
        [{ kind := "identifier", text := some (Utf8.encode "require") }] ++ between ++
        [{ kind := ")", named := false }] },
    { kind := "arguments", field := some "arguments"
      children := between ++ [{ kind := "string"
                                children := [{ kind := "string_fragment",
                                               text := some (Utf8.encode "../../../x") }] }] }]

theorem findings_of_commented_require :
    Commented (parenthesizedRequire 0 []) (parenthesizedRequire 7 [{ kind := "comment" }]) ∧
      ((⟨2⟩ : DepthRule).findings "a.js" (parenthesizedRequire 7 [{ kind := "comment" }])).map
          (List.map fun f => (f.specifier, f.message)) =
        .ok [(some ("../../../x" : Text), Specifier.message "../../../x" 2)] ∧
      Interspersed (fun n n' => Commented n n' ∧ n.reference? = n'.reference?)
        (parenthesizedRequire 0 []).preorder
        (parenthesizedRequire 7 [{ kind := "comment" }]).preorder := by
  have comment : Node.IsComment { kind := "comment" } := ⟨rfl, rfl, rfl, rfl⟩
  have leaf {kind : String} {text : Option Bytes} {named : Bool} (other : kind ≠ "string") :
      Commented { kind := kind, text := text, named := named } { kind := kind, text := text, named := named } :=
    .other other .nil
  have commented : Commented (parenthesizedRequire 0 []) (parenthesizedRequire 7 [{ kind := "comment" }]) := by
    apply Commented.other (by decide)
    apply Interspersed.insert comment
    apply Interspersed.keep
    · apply Commented.other (by decide)
      exact .keep (leaf (by decide)) (.insert comment (.keep (leaf (by decide))
        (.insert comment (.keep (leaf (by decide)) .nil))))
    · apply Interspersed.keep _ .nil
      apply Commented.other (by decide)
      exact .insert comment (.keep (.literal (.cons (leaf (by decide)) .nil)) .nil)
  obtain ⟨same, corresponding⟩ := findings_of_commented ⟨2⟩ "a.js" commented
  refine ⟨commented, ?_, corresponding⟩
  rw [← same]
  decide +kernel

end DepthRule
end ImportDepth
