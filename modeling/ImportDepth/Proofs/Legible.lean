import ImportDepth.DepthRule
import ImportDepth.Proofs.Outcome
import ImportDepth.Proofs.Walk

/-! What can be read. A text is unreadable only by a decimal character reference of too many digits, a literal
only by such a text among its pieces, and a reference only by the literal that spells its specifier. A single
unreadable reference leaves a whole tree without findings; in every other tree each node is looked at by itself. -/
namespace ImportDepth

namespace CharacterReference

abbrev ampersand : CodePoint := '&'

instance : Subsingleton Fault := ⟨fun .oversizedNumber .oversizedNumber => rfl⟩

/-- A text with a decimal reference of more digits than are converted. -/
def IsOversized (t : Text) : Prop :=
  ∃ digits : Text, (∀ c ∈ digits, c.isAsciiDigit = true) ∧ Text.maximumDigits < digits.length ∧
    ('&' :: '#' :: digits : Text) <:+: t

def StartsOversized (t : Text) : Prop :=
  ∃ digits : Text, (∀ c ∈ digits, c.isAsciiDigit = true) ∧ Text.maximumDigits < digits.length ∧
    ('#' :: digits : Text) <+: t

variable {t rest front value after consumed : Text} {c : CodePoint} {fuel : Nat}

theorem isOversized_ampersand : IsOversized ('&' :: t) ↔ StartsOversized t ∨ IsOversized t := by
  simp only [IsOversized, StartsOversized, List.infix_cons_iff, List.cons_prefix_cons, true_and, and_or_left,
    exists_or]

theorem isOversized_cons (other : c ≠ '&') : IsOversized (c :: t) ↔ IsOversized t := by
  simp only [IsOversized, List.infix_cons_iff, List.cons_prefix_cons, other.symm, false_and, false_or]

/-- The second text is left of the first after a part without ampersands. -/
def Skips (t after : Text) : Prop := ∃ front : Text, t = front ++ after ∧ ampersand ∉ front

namespace Skips

variable {u : Text}

theorem trans (first : Skips t u) (second : Skips u after) : Skips t after := by
  obtain ⟨front, rfl, plain⟩ := first
  obtain ⟨middle, rfl, plain'⟩ := second
  refine ⟨front ++ middle, (List.append_assoc ..).symm, ?_⟩
  rw [List.mem_append, not_or]
  exact ⟨plain, plain'⟩

theorem cons (other : c ≠ '&') : Skips (c :: t) t := ⟨[c], rfl, by simpa using other.symm⟩

theorem drop (front : consumed <+: t) (plain : ampersand ∉ consumed) : Skips t (t.drop consumed.length) :=
  ⟨consumed, (List.prefix_iff_eq_append.mp front).symm, plain⟩

theorem dropSemicolon (t : Text) : Skips t (dropSemicolon t) := by
  unfold CharacterReference.dropSemicolon
  split
  · exact ⟨[], rfl, List.not_mem_nil⟩
  · split
    · rename_i same
      exact cons (same ▸ by decide)
    · exact ⟨[], rfl, List.not_mem_nil⟩

theorem isOversized_iff (skips : Skips t after) : IsOversized t ↔ IsOversized after := by
  obtain ⟨front, rfl, plain⟩ := skips
  induction front with
  | nil => rfl
  | cons c rest ih =>
    rw [List.mem_cons, not_or] at plain
    rw [List.cons_append, isOversized_cons (Ne.symm plain.1), ih plain.2]

theorem subset (skips : Skips t after) : after ⊆ t := by
  obtain ⟨front, rfl, _⟩ := skips
  exact List.subset_append_right front after

theorem length_le (skips : Skips t after) : after.length ≤ t.length := by
  obtain ⟨front, rfl, _⟩ := skips
  simp

end Skips

theorem startsOversized_iff :
    StartsOversized ('#' :: t) ↔ Text.maximumDigits < (t.takeWhile (·.isAsciiDigit)).length := by
  constructor
  · rintro ⟨digits, number, long, front⟩
    obtain ⟨back, rfl⟩ := (List.cons_prefix_cons.mp front).2
    rw [List.takeWhile_append_of_pos number, List.length_append]
    omega
  · intro long
    refine ⟨t.takeWhile (·.isAsciiDigit), ?_, long, ?_⟩
    · intro c member
      exact List.all_eq_true.mp List.all_takeWhile c member
    · exact List.cons_prefix_cons.mpr ⟨rfl, List.takeWhile_prefix _⟩

/-- A reference is refused exactly for its digits. -/
theorem read?_eq_error_iff : read? t = some (.error .oversizedNumber) ↔ StartsOversized t := by
  have number {digits : Text} (large : Text.maximumDigits < digits.length) : digits ≠ [] := by
    rintro rfl
    contradiction
  unfold read?
  split
  · simp [StartsOversized]
  · rename_i c rest
    split
    · rename_i same
      subst same
      rw [startsOversized_iff]
      dsimp only
      split
      · rename_i long
        simp [long]
      · rename_i short
        simp only [short, iff_false]
        split
        · simp
        · split
          · split <;> simp
          · simp
    · rename_i other
      have none : ¬ StartsOversized (c :: rest) := by
        rintro ⟨digits, _, _, front⟩
        exact other (List.cons_prefix_cons.mp front).1.symm
      simp only [none, iff_false]
      split
      · simp
      · split
        · split <;> simp
        · simp

theorem ampersand_not_mem_takeWhile {p : CodePoint → Bool} (passed : p ampersand = false) (t : Text) :
    ampersand ∉ t.takeWhile p := by
  intro member
  have held := List.all_eq_true.mp List.all_takeWhile _ member
  rw [passed] at held
  contradiction

theorem skips_digits {p : CodePoint → Bool} (passed : p ampersand = false) (t : Text) :
    Skips t (dropSemicolon (t.drop (t.takeWhile p).length)) :=
  (Skips.drop (List.takeWhile_prefix p) (ampersand_not_mem_takeWhile passed t)).trans (.dropSemicolon _)

theorem skips_name (t : Text) : Skips t (t.drop ((t.takeWhile isNameMember).take 32).length) := by
  apply Skips.drop
  · exact (List.take_prefix ..).trans (List.takeWhile_prefix _)
  · intro member
    exact ampersand_not_mem_takeWhile rfl t (List.mem_of_mem_take member)

/-- What a reference can be: a number, or a name that stands there. No other reference begins in it, because
no ampersand stands in it. -/
theorem read?_eq_ok (found : read? t = some (.ok (value, after))) :
    Skips t after ∧ ((∃ n, value = ofNumber n) ∨ ∃ name, name <+: t ∧ value = ofName name) := by
  unfold read? at found
  split at found
  · cases found
  · rename_i c rest
    split at found
    · rename_i same
      have sign : Skips (c :: rest) rest := .cons (same ▸ by decide)
      dsimp only at found
      split at found
      · cases found
      · split at found
        · cases found
          exact ⟨sign.trans (skips_digits rfl rest), .inl ⟨_, rfl⟩⟩
        · split at found
          · rename_i x more _ _
            split at found
            · rename_i hexadecimal
              cases found
              have letter : x ≠ ampersand := by
                rcases hexadecimal.1 with rfl | rfl <;> decide
              exact ⟨(sign.trans (.cons letter)).trans (skips_digits rfl more), .inl ⟨_, rfl⟩⟩
            · cases found
          · cases found
    · dsimp only at found
      have skips := skips_name (c :: rest)
      have front : (List.takeWhile isNameMember (c :: rest)).take 32 <+: c :: rest :=
        (List.take_prefix ..).trans (List.takeWhile_prefix _)
      generalize (List.takeWhile isNameMember (c :: rest)).take 32 = name at found skips front
      split at found
      · cases found
      · split at found
        · rename_i s more following
          rw [following] at skips
          split at found
          · rename_i semicolon
            cases found
            have whole : c :: rest = name ++ s :: after := by
              rw [← following]
              exact List.prefix_iff_eq_append.mp front |>.symm
            have longer : name ++ [s] <+: c :: rest := ⟨after, by simp [whole]⟩
            exact ⟨skips.trans (.cons (semicolon ▸ by decide)), .inr ⟨_, longer, rfl⟩⟩
          · cases found
            exact ⟨following ▸ skips, .inr ⟨_, front, rfl⟩⟩
        · rename_i following
          cases found
          exact ⟨following ▸ skips, .inr ⟨_, front, rfl⟩⟩

theorem resolveWithin_eq_error_iff (enough : t.length ≤ fuel) :
    resolveWithin fuel t = .error .oversizedNumber ↔ IsOversized t := by
  fun_induction resolveWithin fuel t with
  | case1 t =>
    obtain rfl := List.eq_nil_of_length_eq_zero (Nat.le_zero.mp enough)
    simp [IsOversized]
  | case2 => simp [IsOversized]
  | case3 fuel rest value after found ih =>
    obtain ⟨skips, _⟩ := read?_eq_ok found
    have within : after.length ≤ fuel := Nat.le_trans skips.length_le (Nat.le_of_succ_le_succ enough)
    have intact : ¬ StartsOversized rest := by
      rw [← read?_eq_error_iff, found]
      simp
    rw [map_error_iff, ih within, isOversized_ampersand, skips.isOversized_iff]
    simp [intact]
  | case4 fuel rest fault found =>
    have oversized := read?_eq_error_iff.mp found
    simp [isOversized_ampersand, oversized]
  | case5 fuel rest none ih =>
    have intact : ¬ StartsOversized rest := by
      rw [← read?_eq_error_iff, none]
      simp
    rw [map_error_iff, ih (Nat.le_of_succ_le_succ enough), isOversized_ampersand]
    simp [intact]
  | case6 fuel c rest other ih =>
    rw [map_error_iff, ih (Nat.le_of_succ_le_succ enough), isOversized_cons other]

theorem resolve_eq_error_iff : resolve t = .error .oversizedNumber ↔ IsOversized t :=
  resolveWithin_eq_error_iff (Nat.le_refl _)

end CharacterReference

variable {n root : Node}

/-- A string literal with a piece that cannot be read. -/
def Node.IsIllegible (n : Node) : Prop :=
  n.kind = "string" ∧ ∃ piece ∈ n.namedChildren, piece.kind = "html_character_reference" ∧
    CharacterReference.IsOversized (piece.decodedText?.getD [])

/-- A reference whose specifier is spelled by such a literal. -/
def Node.IsUnreadable (n : Node) : Prop :=
  n.form?.isSome = true ∧ ∃ written, n.specifierNode? = some written ∧ written.IsIllegible

theorem Literal.piece_eq_error_iff : piece n = .error .oversizedNumber ↔
    n.kind = "html_character_reference" ∧ CharacterReference.IsOversized (n.decodedText?.getD []) := by
  unfold piece
  dsimp only
  split
  · rename_i escape
    simp [escape]
  · split
    · rename_i reference
      simp [reference, CharacterReference.resolve_eq_error_iff]
    · rename_i plain
      simp [plain]

namespace Node

theorem literal?_eq_error_iff : n.literal? = .error .oversizedNumber ↔ n.IsIllegible := by
  unfold literal? IsIllegible
  split
  · rename_i string
    simp only [string, true_and, ← Literal.piece_eq_error_iff, ← mapM_error_iff]
    cases n.namedChildren.mapM Literal.piece <;> simp [bind, Except.bind, pure, Except.pure]
  · rename_i other
    simp [other, pure, Except.pure]

theorem literal?_eq_some_iff {t : Text} : n.literal? = .ok (some t) ↔
    n.kind = "string" ∧ ∃ parts, n.namedChildren.mapM Literal.piece = .ok parts ∧ parts.flatten = t := by
  unfold literal?
  split
  · rename_i string
    cases n.namedChildren.mapM Literal.piece <;> simp [string, bind, Except.bind, pure, Except.pure]
  · rename_i other
    simp [other, pure, Except.pure]

theorem literal?_of_legible (string : n.kind = "string") (legible : ¬ n.IsIllegible) :
    ∃ t, n.literal? = .ok (some t) := by
  cases read : n.namedChildren.mapM Literal.piece with
  | error fault =>
    cases fault
    have failed : n.literal? = .error .oversizedNumber := by
      rw [literal?, if_pos string, read]
      rfl
    exact absurd (literal?_eq_error_iff.mp failed) legible
  | ok parts => exact ⟨_, literal?_eq_some_iff.mpr ⟨string, parts, read, rfl⟩⟩

theorem reference?_eq_error_iff : n.reference? = .error .oversizedNumber ↔ n.IsUnreadable := by
  unfold reference? IsUnreadable
  cases n.form? with
  | none => simp [pure, Except.pure]
  | some form =>
    cases n.specifierNode? with
    | none => simp [pure, Except.pure]
    | some written =>
      simp only [Option.isSome_some, true_and, Option.some.injEq, exists_eq_left',
        ← literal?_eq_error_iff]
      cases written.literal? <;> simp [bind, Except.bind, pure, Except.pure]

theorem reference?_of_readable (readable : ¬ n.IsUnreadable) :
    n.reference? = .ok n.reference?.toOption.join := by
  cases read : n.reference? with
  | error fault => exact absurd (reference?_eq_error_iff.mp read) readable
  | ok reference => rfl

theorem specifier?_of_form? {form : Option Text → Reference} (formed : n.form? = some form)
    (specifier : Option Text) : (form specifier).specifier? = specifier := by
  unfold form? at formed
  split at formed
  · cases formed
    rfl
  · split at formed
    · cases formed
    · split at formed
      · cases formed
        rfl
      · split at formed
        · cases formed
          rfl
        · cases formed
  · split at formed
    · cases formed
    · cases formed
      rfl
  · cases formed

/-- A known specifier is the value of a string literal. -/
theorem specifier?_eq_some_iff {t : Text} : n.specifier? = .ok (some t) ↔
    n.form?.isSome = true ∧ ∃ written, n.specifierNode? = some written ∧ written.literal? = .ok (some t) := by
  unfold specifier? reference?
  cases formed : n.form? with
  | none => simp [Except.map, pure, Except.pure]
  | some form =>
    have complete := specifier?_of_form? formed
    cases n.specifierNode? with
    | none => simp [Except.map, complete, pure, Except.pure]
    | some written =>
      simp only [Option.isSome_some, true_and, Option.some.injEq, exists_eq_left']
      cases written.literal? <;> simp [Except.map, complete, bind, Except.bind, pure, Except.pure]

/-- Only nodes of the kinds that the rule looks at are references. -/
theorem kind_of_form? (form : n.form?.isSome = true) : n.kind ∈ referenceKinds := by
  unfold form? at form
  split at form
  · rename_i kind
    simp [referenceKinds, kind]
  · rename_i kind
    simp [referenceKinds, kind]
  · rename_i kind
    simp [referenceKinds, kind]
  · contradiction

theorem kind_of_reference? {reference : Reference} (read : n.reference?.toOption.join = some reference) :
    n.kind ∈ referenceKinds := by
  refine kind_of_form? ?_
  unfold reference? at read
  cases form : n.form? with
  | none => simp [form, pure, Except.pure, Except.toOption] at read
  | some form => rfl

end Node

namespace DepthRule

variable (rule : DepthRule) (path : Text)

/-- The finding for a single node, if it can be read and violates the limit. -/
def finding? (n : Node) : Option Finding :=
  n.reference?.toOption.join.bind fun reference => (rule.check reference).map fun violation =>
    Finding.about path name n reference.specifier? violation.message

theorem mem_select {m : Node} : m ∈ Walk.select Node.referenceKinds root ↔
    m ∈ root.preorder ∧ m.kind ∈ Node.referenceKinds := by
  rw [Walk.select_eq_filter, List.mem_filter, List.contains_iff_mem]

theorem references_eq_error_iff :
    references root = .error .oversizedNumber ↔ ∃ n ∈ root.preorder, n.IsUnreadable := by
  have each (n : Node) :
      (return (← n.reference?).map (n, ·) : Except _ _) = .error .oversizedNumber ↔ n.IsUnreadable := by
    rw [← Node.reference?_eq_error_iff]
    cases n.reference? <;> simp [bind, Except.bind, pure, Except.pure]
  rw [references, filterMapM_error_iff]
  simp only [each, mem_select]
  constructor
  · rintro ⟨n, ⟨inside, _⟩, unreadable⟩
    exact ⟨n, inside, unreadable⟩
  · rintro ⟨n, inside, unreadable⟩
    exact ⟨n, ⟨inside, Node.kind_of_form? unreadable.1⟩, unreadable⟩

/-- In a tree without unreadable references every node is looked at by itself. -/
theorem findings_of_readable (readable : ∀ n ∈ root.preorder, ¬ n.IsUnreadable) :
    rule.findings path root = .ok (root.preorder.filterMap (rule.finding? path)) := by
  let held := (Walk.select Node.referenceKinds root).filterMap fun n =>
    n.reference?.toOption.join.map (n, ·)
  have met : references root = .ok held := by
    refine filterMapM_ok fun n among => ?_
    rw [Node.reference?_of_readable (readable n (mem_select.mp among).1)]
    rfl
  have again : ∀ entry ∈ rule.reports held, Finding.ofNode path name entry.1 entry.2 =
      .ok (Finding.about path name entry.1 (entry.1.reference?.toOption.join.bind (·.specifier?)) entry.2) := by
    intro entry reported
    obtain ⟨⟨n, reference⟩, kept, said⟩ := List.mem_filterMap.mp reported
    obtain ⟨violation, _, rfl⟩ := Option.map_eq_some_iff.mp said
    obtain ⟨m, among, same⟩ := List.mem_filterMap.mp kept
    obtain ⟨_, _, same⟩ := Option.map_eq_some_iff.mp same
    cases same
    rw [Finding.ofNode, Node.specifier?, Node.reference?_of_readable (readable n (mem_select.mp among).1)]
    rfl
  rw [findings, reportTree, met]
  refine (mapM_ok again).trans (congrArg Except.ok ?_)
  simp only [reports, held, Walk.select_eq_filter, List.filterMap_filterMap, List.filterMap_filter,
    List.map_filterMap]
  congr 1
  funext n
  rw [finding?]
  cases read : n.reference?.toOption.join with
  | none => simp
  | some reference =>
    have listed : n.kind ∈ Node.referenceKinds := Node.kind_of_reference? read
    cases checked : rule.check reference <;> simp [listed, read, checked]

theorem findings_eq_error_iff :
    rule.findings path root = .error .oversizedNumber ↔ ∃ n ∈ root.preorder, n.IsUnreadable := by
  constructor
  · intro failed
    refine Classical.byContradiction fun readable => ?_
    rw [findings_of_readable rule path (by simpa using readable)] at failed
    cases failed
  · intro unreadable
    rw [findings, reportTree, references_eq_error_iff.mpr unreadable]
    rfl

/-- The same as one equation. -/
theorem findings_eq (root : Node) : rule.findings path root =
    if root.preorder.any (·.reference?.toOption.isNone) then .error .oversizedNumber
    else .ok (root.preorder.filterMap (rule.finding? path)) := by
  have unreadable (n : Node) : n.reference?.toOption.isNone = true ↔ n.IsUnreadable := by
    rw [← Node.reference?_eq_error_iff]
    cases n.reference? with
    | error fault => cases fault; simp [Except.toOption]
    | ok reference => simp [Except.toOption]
  split
  · rename_i some
    obtain ⟨n, inside, none⟩ := List.any_eq_true.mp some
    exact (findings_eq_error_iff rule path).mpr ⟨n, inside, (unreadable n).mp none⟩
  · rename_i every
    apply findings_of_readable
    intro n inside none
    exact every (List.any_eq_true.mpr ⟨n, inside, (unreadable n).mpr none⟩)

end DepthRule
end ImportDepth
