import ImportDepth.Proofs.Digit
import ImportDepth.Proofs.Findings
import ImportDepth.Proofs.Utf8.Ascii
import ImportDepth.Report.Render
import ImportDepth.SourceLint
import Mathlib.Algebra.Ring.Nat

/-! Reports as lines of text. Everything that a line says is free of line feeds, except for the path of the
file and the specifier, which stands in the message as it was decoded. An escape, a character reference or
a byte of a string literal may be a line feed; such a specifier breaks its line in two, and nothing else
does. -/
namespace ImportDepth

abbrev lineFeed : CodePoint := '\n'

variable {c : CodePoint} {path specifier value : Text} {parts : List Text} {limit : Nat} {n piece : Node}

namespace Text

/-- Parts with a separator after each of them. -/
theorem join_append {s : Text} (nonempty : parts ≠ []) : join s parts ++ s = parts.flatMap (· ++ s) := by
  induction parts with
  | nil => contradiction
  | cons part rest ih =>
    cases rest with
    | nil => simp [join, List.intercalate]
    | cons next rest =>
      rw [join_cons_cons, List.append_assoc, List.append_assoc, ih (by simp)]
      simp

theorem count_terminated (parts : List Text) :
    (parts.flatMap (· ++ [c])).count c = (parts.map (·.count c)).sum + parts.length := by
  induction parts with
  | nil => rfl
  | cons part rest ih =>
    rw [List.flatMap_cons, List.count_append, List.count_append, ih, List.map_cons, List.sum_cons,
      List.length_cons, List.count_singleton_self]
    omega

theorem splitOn_terminated (parts : List Text) :
    splitOn c (parts.flatMap (· ++ [c])) = parts.flatMap (splitOn c) ++ [[]] := by
  induction parts with
  | nil => rfl
  | cons part rest ih =>
    rw [List.flatMap_cons, List.append_assoc, List.singleton_append, splitOn_append, ih,
      List.flatMap_cons, List.append_assoc]

theorem lineFeed_not_mem_ofNat (k : Nat) : lineFeed ∉ ofNat k := not_mem_ofNat (by decide)

theorem lineFeed_not_mem_ofInt (k : Int) : lineFeed ∉ ofInt k := not_mem_ofInt (by decide) (by decide)

end Text

/-! Where the line feeds of a string literal come from. -/

/-- A piece of a string literal that is a line feed, or holds one. -/
inductive Node.SpellsLineFeed (piece : Node) : Prop where
  | escape (kind : piece.kind = "escape_sequence")
      (stands : lineFeed ∈ Escape.decode (piece.decodedText?.getD []))
  | reference {value : Text} (kind : piece.kind = "html_character_reference")
      (resolved : CharacterReference.resolve (piece.decodedText?.getD []) = .ok value)
      (stands : lineFeed ∈ value)
  | raw {bytes : Bytes} (unescaped : piece.kind ≠ "escape_sequence")
      (plain : piece.kind ≠ "html_character_reference") (text : piece.text = some bytes) (held : 0x0A ∈ bytes)

theorem Node.lineFeed_mem_decodedText_iff :
    lineFeed ∈ piece.decodedText?.getD [] ↔ ∃ bytes, piece.text = some bytes ∧ 0x0A ∈ bytes := by
  unfold decodedText?
  cases piece.text with
  | none => simp
  | some bytes =>
    have same : UInt8.ofNat lineFeed.val = 0x0A := by decide
    have read := @Utf8.mem_decodeLossy_iff bytes lineFeed (by decide)
    simpa [same] using read

theorem Node.spellsLineFeed_iff :
    piece.SpellsLineFeed ↔ ∃ part, Literal.piece piece = .ok part ∧ lineFeed ∈ part := by
  unfold Literal.piece
  dsimp only
  split
  · rename_i kind
    constructor
    · rintro (⟨_, stands⟩ | ⟨other, _, _⟩ | ⟨other, _, _, _⟩)
      · exact ⟨_, rfl, stands⟩
      · rw [kind] at other
        contradiction
      · exact absurd kind other
    · rintro ⟨_, read, stands⟩
      cases read
      exact .escape kind stands
  · rename_i unescaped
    split
    · rename_i kind
      constructor
      · rintro (⟨other, _⟩ | ⟨_, resolved, stands⟩ | ⟨_, other, _, _⟩)
        · exact absurd other unescaped
        · exact ⟨_, resolved, stands⟩
        · exact absurd kind other
      · rintro ⟨_, resolved, stands⟩
        exact .reference kind resolved stands
    · rename_i plain
      constructor
      · rintro (⟨other, _⟩ | ⟨other, _, _⟩ | ⟨_, _, text, held⟩)
        · exact absurd other unescaped
        · exact absurd other plain
        · exact ⟨_, rfl, Node.lineFeed_mem_decodedText_iff.mpr ⟨_, text, held⟩⟩
      · rintro ⟨_, read, stands⟩
        cases read
        obtain ⟨bytes, text, held⟩ := Node.lineFeed_mem_decodedText_iff.mp stands
        exact .raw unescaped plain text held

instance (piece : Node) : Decidable piece.SpellsLineFeed :=
  decidable_of_iff (∃ part ∈ (Literal.piece piece).toOption, lineFeed ∈ part) <| by
    rw [Node.spellsLineFeed_iff]
    cases Literal.piece piece <;> simp [Except.toOption]

theorem Node.mem_literal_iff (known : n.literal? = .ok (some value)) :
    c ∈ value ↔ ∃ piece ∈ n.namedChildren, ∃ part, Literal.piece piece = .ok part ∧ c ∈ part := by
  obtain ⟨_, parts, read, rfl⟩ := literal?_eq_some_iff.mp known
  rw [List.mem_flatten]
  constructor
  · rintro ⟨part, among, held⟩
    obtain ⟨piece, member, pieceRead⟩ := exists_of_mem_mapM_ok read among
    exact ⟨piece, member, part, pieceRead, held⟩
  · rintro ⟨piece, member, part, pieceRead, held⟩
    obtain ⟨same, among, again⟩ := mem_of_mapM_ok read member
    cases pieceRead.symm.trans again
    exact ⟨part, among, held⟩

/-- A specifier holds a line feed exactly if a piece of its literal does. -/
theorem Node.TooDeep.lineFeed_mem_iff (deep : n.TooDeep limit specifier) :
    lineFeed ∈ specifier ↔
      ∃ written ∈ n.specifierNode?, ∃ piece ∈ written.namedChildren, piece.SpellsLineFeed := by
  obtain ⟨written, spelled, literal⟩ := deep.spelled
  simp only [mem_literal_iff literal, spellsLineFeed_iff, spelled, Option.mem_some_iff, exists_eq_left']

/-! Lines. -/

theorem Specifier.count_message {k : Int} :
    (message specifier k).count lineFeed = specifier.count lineFeed := by
  have start : ("Import/export path \"" : Text).count lineFeed = 0 := by decide
  have middle : ("\" must not exceed the maximum depth (" : Text).count lineFeed = 0 := by decide
  have last : (" levels)" : Text).count lineFeed = 0 := by decide
  simp only [message, List.count_append, start, middle, last,
    List.count_eq_zero.mpr (Text.lineFeed_not_mem_ofInt k), Nat.zero_add, Nat.add_zero]

namespace Finding

theorem count_textLine (f : Finding) :
    f.textLine.count lineFeed = f.path.count lineFeed + f.rule.count lineFeed + f.message.count lineFeed := by
  have colon : (":" : Text).count lineFeed = 0 := by decide
  have gap : ("  " : Text).count lineFeed = 0 := by decide
  simp only [textLine, location, List.count_append, colon, gap,
    List.count_eq_zero.mpr (Text.lineFeed_not_mem_ofInt _), Nat.add_zero]

theorem count_textLine_expected (unbroken : lineFeed ∉ path) :
    (expected path limit n specifier).textLine.count lineFeed = specifier.count lineFeed := by
  have rule : ("no-deep-relative-imports" : Text).count lineFeed = 0 := by decide
  simp only [count_textLine, expected, rule, Specifier.count_message, List.count_eq_zero.mpr unbroken,
    Nat.zero_add]

end Finding

namespace Report

variable {r : Report}

theorem renderText_eq (r : Report) :
    r.renderText = (r.findings.map Finding.textLine ++ [r.summary]).flatMap (· ++ [lineFeed]) :=
  Text.join_append (by simp)

theorem lineFeed_not_mem_summary (r : Report) : lineFeed ∉ r.summary := by
  have one : lineFeed ∉ (" problem in " : Text) := by decide
  have several : lineFeed ∉ (" problems in " : Text) := by decide
  have last : lineFeed ∉ (" files checked" : Text) := by decide
  unfold summary
  dsimp only
  split <;> simp only [List.mem_append, Text.lineFeed_not_mem_ofNat, Text.lineFeed_not_mem_ofInt, one,
    several, last, or_self, not_false_eq_true]

theorem count_renderText (r : Report) : r.renderText.count lineFeed =
    r.findings.length + 1 + (r.findings.map (·.textLine.count lineFeed)).sum := by
  have summary : r.summary.count lineFeed = 0 := List.count_eq_zero.mpr r.lineFeed_not_mem_summary
  rw [renderText_eq, Text.count_terminated, List.map_append, List.sum_append, List.map_map]
  simp only [List.map_cons, List.map_nil, List.sum_cons, List.sum_nil, List.length_append,
    List.length_map, List.length_cons, List.length_nil, summary, Function.comp_def]
  omega

theorem splitOn_renderText (r : Report) : r.renderText.splitOn lineFeed =
    (r.findings.map Finding.textLine).flatMap (Text.splitOn lineFeed) ++ [r.summary, []] := by
  rw [renderText_eq, Text.splitOn_terminated, List.flatMap_append, List.flatMap_singleton,
    Text.splitOn_of_not_mem r.lineFeed_not_mem_summary, List.append_assoc]
  rfl

/-- The text of a report with one line for each finding, which tells its place, its rule and its message,
and a last line that counts. -/
structure OneLineEach (r : Report) : Prop where
  count : r.renderText.count lineFeed = r.findings.length + 1
  line : ∀ (k : Nat) (f : Finding), r.findings[k]? = some f → (r.renderText.splitOn lineFeed)[k]? =
    some (f.path ++ ":" ++ Text.ofInt f.line ++ ":" ++ Text.ofInt f.col ++ "  " ++ f.rule ++ "  " ++
      f.message)
  last : (r.renderText.splitOn lineFeed)[r.findings.length]? = some r.summary

theorem oneLineEach_iff :
    r.OneLineEach ↔ ∀ f ∈ r.findings, f.textLine.count lineFeed = 0 := by
  constructor
  · intro each f member
    have none : (r.findings.map (·.textLine.count lineFeed)).sum = 0 := by
      have counted := each.count
      rw [count_renderText] at counted
      omega
    exact List.sum_eq_zero_iff_forall_eq_nat.mp none _ (List.mem_map_of_mem member)
  · intro whole
    have lines : (r.findings.map Finding.textLine).flatMap (Text.splitOn lineFeed) =
        r.findings.map Finding.textLine := by
      rw [List.flatMap_map, List.map_eq_flatMap]
      apply List.flatMap_congr
      intro f member
      exact Text.splitOn_of_not_mem (List.count_eq_zero.mp (whole f member))
    have split : r.renderText.splitOn lineFeed = r.findings.map Finding.textLine ++ [r.summary, []] := by
      rw [splitOn_renderText, lines]
    have none : (r.findings.map (·.textLine.count lineFeed)).sum = 0 := by
      apply List.sum_eq_zero_iff_forall_eq_nat.mpr
      intro k member
      obtain ⟨f, inside, rfl⟩ := List.mem_map.mp member
      exact whole f inside
    refine ⟨by rw [count_renderText, none], ?_, ?_⟩
    · intro k f found
      have bound : k < (r.findings.map Finding.textLine).length := by
        rw [List.length_map]
        exact (List.getElem?_eq_some_iff.mp found).1
      rw [split, List.getElem?_append_left bound, List.getElem?_map, found]
      rfl
    · rw [split, List.getElem?_append_right (by simp)]
      simp

/-- Lines of the findings in a tree, for a file whose path has no line feed. There is a line feed for each
finding, one for the summary, and one for each line feed in a specifier. Hence there is one line for each
finding exactly if no literal of a specifier that is too deep has a piece with a line feed. -/
theorem renderText_lines (r : Report) (tree : Node) (unbroken : lineFeed ∉ path)
    (made : DepthRule.findings ⟨limit⟩ path tree = .ok r.findings) :
    r.renderText.count lineFeed = r.findings.length + 1 +
      (r.findings.map fun f => (f.specifier.getD []).count lineFeed).sum ∧
    (r.OneLineEach ↔ ∀ n ∈ tree.preorder, (∃ specifier, n.TooDeep limit specifier) →
      ∀ written ∈ n.specifierNode?, ∀ piece ∈ written.namedChildren, ¬ piece.SpellsLineFeed) := by
  have told : ∀ f, f ∈ r.findings ↔ ∃ n ∈ tree.preorder, ∃ specifier, n.TooDeep limit specifier ∧
      f = Finding.expected path limit n specifier :=
    fun f => DepthRule.mem_findings_iff ⟨limit⟩ path made
  constructor
  · rw [count_renderText]
    congr 2
    apply List.map_congr_left
    intro f member
    obtain ⟨n, _, specifier, _, rfl⟩ := (told f).mp member
    exact Finding.count_textLine_expected unbroken
  · rw [oneLineEach_iff]
    constructor
    · rintro whole n inside ⟨specifier, deep⟩ written spelled piece member feed
      have counted := whole _ ((told _).mpr ⟨n, inside, specifier, deep, rfl⟩)
      rw [Finding.count_textLine_expected unbroken, List.count_eq_zero] at counted
      exact counted (deep.lineFeed_mem_iff.mpr ⟨written, spelled, piece, member, feed⟩)
    · intro free f member
      obtain ⟨n, inside, specifier, deep, rfl⟩ := (told f).mp member
      rw [Finding.count_textLine_expected unbroken, List.count_eq_zero]
      intro held
      obtain ⟨written, spelled, piece, among, feed⟩ := deep.lineFeed_mem_iff.mp held
      exact free n inside ⟨specifier, deep⟩ written spelled piece among feed

def ofSource (source : Text) : Report :=
  ⟨1, Source.lint ⟨2⟩ "a.js" .javascript (Utf8.encode source)⟩

theorem findings_ofSource (source : Text) :
    DepthRule.findings ⟨2⟩ "a.js" (Source.parse .javascript (Utf8.encode source)) =
      .ok (ofSource source).findings :=
  Source.findings_parse ⟨2⟩ "a.js" .javascript (Utf8.encode source)

theorem renderText_lines_escaped :
    ((ofSource "import '../../../a';").findings.length = 1 ∧ (ofSource "import '../../../a';").OneLineEach) ∧
    (ofSource "import '../../../a\\nb';").findings.length = 1 ∧
      (ofSource "import '../../../a\\nb';").renderText.count lineFeed = 3 ∧
      ¬ (ofSource "import '../../../a\\nb';").OneLineEach := by
  have unbroken : lineFeed ∉ ("a.js" : Text) := by decide
  constructor
  · have one : (ofSource "import '../../../a';").findings.length = 1 := by decide +kernel
    have plain : ∀ n ∈ (Source.parse .javascript (Utf8.encode "import '../../../a';")).preorder,
        (∃ specifier, n.TooDeep 2 specifier) → ∀ written ∈ n.specifierNode?,
          ∀ piece ∈ written.namedChildren, ¬ piece.SpellsLineFeed := by decide +kernel
    have made := findings_ofSource "import '../../../a';"
    generalize ofSource "import '../../../a';" = r at one made ⊢
    obtain ⟨_, whole⟩ := renderText_lines r _ unbroken made
    exact ⟨one, whole.mpr plain⟩
  · have one : (ofSource "import '../../../a\\nb';").findings.length = 1 := by decide +kernel
    have feed : ((ofSource "import '../../../a\\nb';").findings.map fun f =>
        (f.specifier.getD []).count lineFeed).sum = 1 := by decide +kernel
    have made := findings_ofSource "import '../../../a\\nb';"
    generalize ofSource "import '../../../a\\nb';" = r at one feed made ⊢
    obtain ⟨counted, _⟩ := renderText_lines r _ unbroken made
    rw [one, feed] at counted
    refine ⟨one, counted, ?_⟩
    intro each
    rw [each.count, one] at counted
    exact absurd counted (by decide)

end Report
end ImportDepth
