import ImportDepth.Json.Writer
import ImportDepth.Proofs.Json.Reader
import Mathlib.Tactic.SplitIfs

/-! Written JSON follows the grammar. The text of a value spells it, unless the value is a number with a
fraction, a moment or a table that has a key twice, so that every reader gives it back. -/
namespace ImportDepth.Json

variable {t : Text} {c : CodePoint} {v : Value} {n depth : Nat}

/-! Strings. -/

theorem spellsUnit_hexDigits (control : n < 0x20) : SpellsUnit (Text.hexDigits 4 n) n := by
  have written : ∀ n < 0x20, Text.hexDigits 4 n =
      [CodePoint.ofChar (Nat.digitChar 0), CodePoint.ofChar (Nat.digitChar 0),
        CodePoint.ofChar (Nat.digitChar (n / 16)), CodePoint.ofChar (Nat.digitChar (n % 16))] := by decide
  have digit : ∀ k < 16, (CodePoint.ofChar (Nat.digitChar k)).hexValue? = some k := by decide
  have value : ((0 * 16 + 0) * 16 + n / 16) * 16 + n % 16 = n := by omega
  have spelled := SpellsUnit.digits (digit 0 (by decide)) (digit 0 (by decide)) (digit (n / 16) (by omega))
    (digit (n % 16) (by omega))
  rw [value] at spelled
  rw [written n control]
  exact spelled

theorem spellsCharacter_escaped (scalar : ¬ c.IsSurrogate) : SpellsCharacter (escaped c) c := by
  have short : ∀ e value : CodePoint, c.val = value.val → (e, value) ∈ shortEscapes →
      SpellsCharacter ['\\', e] c := by
    intro e value same listed
    rw [Fin.ext same]
    exact .short listed
  unfold escaped
  split_ifs with quote backslash backspace tab newline feed back control
  · exact short '"' '"' (congrArg _ quote) (by decide)
  · exact short '\\' '\\' (congrArg _ backslash) (by decide)
  · exact short 'b' '\x08' backspace (by decide)
  · exact short 't' '\t' tab (by decide)
  · exact short 'n' '\n' newline (by decide)
  · exact short 'f' '\x0c' feed (by decide)
  · exact short 'r' '\r' back (by decide)
  · exact .unit (spellsUnit_hexDigits control) scalar
  · exact .itself quote backslash control scalar

theorem spellsText_flatMap_escaped (scalar : t.IsScalar) : SpellsText (t.flatMap escaped) t := by
  induction t with
  | nil => exact .nil
  | cons c t ih =>
    obtain ⟨first, others⟩ := Text.IsScalar.cons_iff.mp scalar
    exact .cons (spellsCharacter_escaped first) (ih others)

theorem hasSurrogate_eq_false_iff : hasSurrogate t = false ↔ t.IsScalar := by
  simp [hasSurrogate, Text.IsScalar]

/-! Numbers. -/

theorem isNumeral_ofNat (n : Nat) : IsNumeral (Text.ofNat n) := by
  refine ⟨Text.ofNat_ne_nil n, fun c => Text.isAsciiDigit_of_mem_ofNat, fun zero => ?_⟩
  rw [Text.eq_zero_of_head_ofNat zero]
  rfl

theorem spellsInteger_ofInt (n : Int) : SpellsInteger (Text.ofInt n) n := by
  cases n with
  | ofNat n =>
    have spelled := SpellsInteger.natural (isNumeral_ofNat n)
    rw [Text.decimal_ofNat] at spelled
    exact spelled
  | negSucc n =>
    have spelled := SpellsInteger.negative (isNumeral_ofNat (n + 1))
    rw [Text.decimal_ofNat] at spelled
    exact spelled

/-! Values. -/

/-- Values that their text determines. -/
inductive Exact : Value → Prop where
  | null : Exact .null
  | bool (b : Bool) : Exact (.bool b)
  | int (n : Int) : Exact (.int n)
  | text (t : Text) : Exact (.text t)
  | list {items : List Value} (each : ∀ v ∈ items, Exact v) : Exact (.list items)
  | table {entries : List (Text × Value)} (distinct : (entries.map Prod.fst).Nodup)
      (each : ∀ entry ∈ entries, Exact entry.2) : Exact (.table entries)

theorem obstacle?_int_eq_none_iff {n : Int} : obstacle? (.int n) = none ↔ fits n = true := by
  simp [obstacle?]

theorem obstacle?_text_eq_none_iff : obstacle? (.text t) = none ↔ t.IsScalar := by
  simp [obstacle?, hasSurrogate_eq_false_iff]

theorem obstacle?_list_eq_none_iff {items : List Value} :
    obstacle? (.list items) = none ↔ ∀ v ∈ items, obstacle? v = none := by
  rw [obstacle?]
  induction items with
  | nil => simp [obstacleInItems?]
  | cons v rest ih =>
    rw [obstacleInItems?, Option.orElse_eq_or, Option.or_eq_none_iff, ih, List.forall_mem_cons]

theorem obstacle?_table_eq_none_iff {entries : List (Text × Value)} :
    obstacle? (.table entries) = none ↔ ∀ entry ∈ entries, entry.1.IsScalar ∧ obstacle? entry.2 = none := by
  rw [obstacle?]
  induction entries with
  | nil => simp [obstacleInEntries?]
  | cons entry rest ih =>
    rw [obstacleInEntries?, Option.orElse_eq_or, Option.or_eq_none_iff, Option.orElse_eq_or,
      Option.or_eq_none_iff, ih, List.forall_mem_cons, obstacle?_text_eq_none_iff, and_assoc]

theorem blank_newline (depth : Nat) : Blank (newline depth) := by
  intro c member
  rcases List.mem_cons.mp member with rfl | member
  · rfl
  · rw [List.eq_of_mem_replicate member]
    rfl

def layoutEntry (depth : Nat) (entry : Text × Value) : Text := quote entry.1 ++ ": " ++ layout depth entry.2

theorem layoutItems_eq (items : List Value) :
    layoutItems depth items =
      items.flatMap fun v => (',' : CodePoint) :: (newline depth ++ layout depth v) := by
  induction items with
  | nil => rfl
  | cons v items ih =>
    rw [layoutItems, ih, List.flatMap_cons]
    rfl

theorem layoutEntries_eq (entries : List (Text × Value)) :
    layoutEntries depth entries =
      entries.flatMap fun entry => (',' : CodePoint) :: (newline depth ++ layoutEntry depth entry) := by
  induction entries with
  | nil => rfl
  | cons entry entries ih =>
    rw [layoutEntries, ih, List.flatMap_cons, layoutEntry]
    simp only [List.append_assoc, List.cons_append]
    rfl

/-- Parts on a line each, with commas at the ends of the lines. -/
theorem separated_lines {α : Type} {part : Text → α → Prop} {spell : α → Text} {a : α} {others : List α}
    (outer : Nat) (each : ∀ b ∈ a :: others, part (spell b) b) :
    Separated part (newline depth ++ (spell a ++ (others.flatMap (fun b =>
      (',' : CodePoint) :: (newline depth ++ spell b)) ++ newline outer))) (a :: others) := by
  have first := each a List.mem_cons_self
  induction others generalizing a with
  | nil => exact .one (.around (blank_newline depth) first (blank_newline outer))
  | cons b others ih =>
    have further := @ih b (fun d member => each d (.tail a member)) (each b (.tail a List.mem_cons_self))
    have spelled := Separated.more (.around (blank_newline depth) first (by decide : Blank [])) further
    simpa only [List.flatMap_cons, List.append_assoc, List.cons_append, List.append_nil] using spelled

theorem member_layoutEntry {entry : Text × Value} (scalar : entry.1.IsScalar)
    (held : Spells (layout depth entry.2) entry.2) : Member Spells (layoutEntry depth entry) entry := by
  have spelled := Member.entry (spellsText_flatMap_escaped scalar) (by decide : Blank [])
    (by decide : Blank (" " : Text)) held
  rw [layoutEntry, quote]
  simp only [List.append_assoc]
  exact spelled

theorem spells_layout (exact : Exact v) (writable : obstacle? v = none) (depth : Nat) :
    Spells (layout depth v) v := by
  induction exact generalizing depth with
  | null => exact .null
  | bool b => exact .bool b
  | int n => exact .int (spellsInteger_ofInt n)
  | text t =>
    have spelled := Spells.text (spellsText_flatMap_escaped (obstacle?_text_eq_none_iff.mp writable))
    rw [layout, quote, List.append_assoc]
    exact spelled
  | @list items each ih =>
    have parts := obstacle?_list_eq_none_iff.mp writable
    cases items with
    | nil => exact .noItems (by decide : Blank [])
    | cons v items =>
      have lines := @separated_lines (depth + 1) _ Spells (layout (depth + 1)) v items depth fun w member =>
        ih w member (parts w member) (depth + 1)
      have spelled := Spells.items lines
      rw [layout, layoutItems_eq]
      simp only [List.append_assoc] at spelled ⊢
      exact spelled
  | @table entries distinct each ih =>
    have parts := obstacle?_table_eq_none_iff.mp writable
    cases entries with
    | nil => exact .noMembers (by decide : Blank [])
    | cons entry entries =>
      have lines := @separated_lines (depth + 1) _ (Member Spells) (layoutEntry (depth + 1)) entry entries
        depth fun e member =>
          member_layoutEntry (parts e member).1 (ih e member (parts e member).2 (depth + 1))
      have spelled := Spells.members lines distinct
      rw [layout, layoutEntries_eq]
      simp only [layoutEntry, List.append_assoc] at spelled ⊢
      exact spelled

/-- A value that can be written and that its text determines is given back by every reader, also after a
final newline. -/
theorem IsStandard.read_layout {read : Text → Option Value} (standard : IsStandard read) (exact : Exact v)
    (writable : obstacle? v = none) : read (layout 0 v ++ "\n") = some v := by
  exact standard _ v (.around (by decide : Blank []) (spells_layout exact writable 0) (blank_newline 0))

end ImportDepth.Json
