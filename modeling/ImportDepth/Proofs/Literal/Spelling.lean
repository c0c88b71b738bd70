import ImportDepth.Proofs.Digit.Hexadecimal
import ImportDepth.Proofs.Literal
import ImportDepth.Specifier
import Mathlib.Data.List.Forall2

/-! The spellings of a string literal. A text is written as raw pieces, escapes of single code points and line
continuations, in any mixture; the grammar of these is stated apart from the decoder. Whichever spelling was
chosen, the value of the literal is the text. -/
namespace ImportDepth

namespace Escape

/-- The letters of the short escapes, with the control characters that they stand for. -/
def controls : List (CodePoint × CodePoint) :=
  [('n', '\n'), ('r', '\r'), ('t', '\t'), ('b', '\x08'), ('f', '\x0c'), ('v', '\x0b'), ('0', '\x00')]

/-- What a backslash joins to the next line. -/
def lineEnds : List Text := ["\n", "\r", "\r\n", "\u2028", "\u2029"]

/-- What does not stand for itself after a backslash: the beginnings of other escapes and of old octal ones. -/
def special : Text := "nrtbfvux01234567\n\r\u2028\u2029"

/-- What may follow a backslash, and the text that is meant. -/
inductive Means : Text → Text → Prop where
  | control {letter c : CodePoint} (listed : (letter, c) ∈ controls) : Means [letter] [c]
  | byte {digits : Text} {c : CodePoint} (numeral : HexNumeral digits c.val) (two : digits.length = 2) :
      Means ('x' :: digits) [c]
  | unit {digits : Text} {c : CodePoint} (numeral : HexNumeral digits c.val) (four : digits.length = 4) :
      Means ('u' :: digits) [c]
  | braced {digits : Text} {c : CodePoint} (numeral : HexNumeral digits c.val) :
      Means ('u' :: '\x7b' :: (digits ++ [('\x7d' : CodePoint)])) [c]
  | itself {c : CodePoint} (scalar : ¬ c.IsSurrogate) (plain : c ∉ special) : Means [c] [c]
  | continuation {written : Text} (listed : written ∈ lineEnds) : Means written []

end Escape

inductive Node.Contributes : Node → Text → Prop where
  | raw {n : Node} {t : Text} (kind : n.kind = "string_fragment") (scalar : t.IsScalar)
      (text : n.text = some (Utf8.encode t)) : Contributes n t
  | escape {n : Node} {body t : Text} (kind : n.kind = "escape_sequence") (means : Escape.Means body t)
      (text : n.text = some (Utf8.encode ('\\' :: body))) : Contributes n t

structure Node.Spells (n : Node) (t : Text) : Prop where
  kind : n.kind = "string"
  pieces : ∃ parts, List.Forall₂ Contributes n.namedChildren parts ∧ parts.flatten = t

variable {n : Node} {t body : Text} {c : CodePoint}

namespace Escape

theorem numbered?_of_numeral {digits : Text} (numeral : HexNumeral digits c.val) :
    numbered? digits = some c := by
  have natural : ¬ (c.val : Int) < 0 := by omega
  have named : CodePoint.ofNat? c.val = some c := dif_pos c.isLt
  rw [numbered?, numeral.integer?_eq, Option.bind_eq_bind, Option.bind_some, if_neg natural,
    Int.toNat_natCast, named]

/-- The short escapes are single letters, all of them special. -/
theorem lookup_simple_eq_none (other : ∀ letter ∈ special, body ≠ [letter]) : simple.lookup body = none := by
  have letters : ∀ entry ∈ simple, special.any (fun letter => entry.1 = [letter]) = true := by decide
  rw [List.lookup_eq_none_iff]
  intro entry listed
  obtain ⟨letter, inside, same⟩ := List.any_eq_true.mp (letters entry listed)
  rw [bne_iff_ne, of_decide_eq_true same]
  exact other letter inside

theorem mem_special_of_isLineTerminator (ends : isLineTerminator c = true) : c ∈ special := by
  have all : ∀ n ∈ [0xA, 0xD, 0x2028, 0x2029], n ∈ special.map Fin.val := by decide
  obtain ⟨d, inside, same⟩ := List.mem_map.mp (all c.val (List.contains_iff_mem.mp ends))
  rwa [← Fin.ext same]

theorem decodeBody?_numbered {letter : CodePoint} {digits : Text} (letters : letter = 'u' ∨ letter = 'x')
    (numeral : HexNumeral digits c.val) : decodeBody? (letter :: digits) = some [c] := by
  obtain ⟨first, rest, rfl⟩ := List.exists_cons_of_ne_nil numeral.ne_nil
  obtain ⟨d, digit⟩ := numeral.digit_of_mem (c := first) (by simp)
  have unbraced : first ≠ '\x7b' := digit.ne_mark '\x7b' (by decide)
  have inline : isLineTerminator letter = false := by
    rcases letters with rfl | rfl <;> decide
  have long : simple.lookup (letter :: first :: rest) = none := lookup_simple_eq_none (by simp)
  simp [decodeBody?, inline, long, unbraced, letters, numbered?_of_numeral numeral]

namespace Means

theorem isScalar (means : Means body t) : body.IsScalar := by
  cases means with
  | control listed =>
    have all : controls.all (fun entry => ¬ entry.1.IsSurrogate) = true := by decide
    have scalar := List.all_eq_true.mp all _ listed
    exact Text.IsScalar.cons_iff.mpr ⟨of_decide_eq_true scalar, by simp [Text.IsScalar]⟩
  | byte numeral | unit numeral =>
    exact Text.IsScalar.cons_iff.mpr ⟨Text.not_isSurrogate_ofChar _, numeral.isScalar⟩
  | braced numeral =>
    refine Text.IsScalar.cons_iff.mpr ⟨Text.not_isSurrogate_ofChar _, ?_⟩
    refine Text.IsScalar.cons_iff.mpr ⟨Text.not_isSurrogate_ofChar _, ?_⟩
    exact Text.IsScalar.append_iff.mpr ⟨numeral.isScalar, Text.IsScalar.map_ofChar ['\x7d']⟩
  | itself scalar => exact Text.IsScalar.cons_iff.mpr ⟨scalar, by simp [Text.IsScalar]⟩
  | continuation listed =>
    have all : ∀ written ∈ lineEnds, written.all (fun c => ¬ c.IsSurrogate) = true := by decide
    intro c member
    simpa using List.all_eq_true.mp (all _ listed) c member

theorem decodeBody?_eq (means : Means body t) : decodeBody? body = some t := by
  cases means with
  | control listed =>
    have all : controls.all (fun entry => decodeBody? [entry.1] = some [entry.2]) = true := by decide
    exact of_decide_eq_true (List.all_eq_true.mp all _ listed)
  | byte numeral => exact decodeBody?_numbered (.inr rfl) numeral
  | unit numeral => exact decodeBody?_numbered (.inl rfl) numeral
  | @braced digits c numeral =>
    have inline : isLineTerminator 'u' = false := by decide
    have closed : (('u' : CodePoint) :: '\x7b' :: (digits ++ [('\x7d' : CodePoint)])).getLast? =
        some ('\x7d' : CodePoint) := by
      rw [← List.cons_append, ← List.cons_append, List.getLast?_concat]
    have long : simple.lookup (('u' : CodePoint) :: '\x7b' :: (digits ++ [('\x7d' : CodePoint)])) = none :=
      lookup_simple_eq_none (by simp)
    simp [decodeBody?, inline, long, closed, numbered?_of_numeral numeral]
  | @itself c scalar plain =>
    have inline : isLineTerminator c = false := by
      rw [← Bool.not_eq_true]
      exact fun ends => plain (mem_special_of_isLineTerminator ends)
    have unlisted : simple.lookup [c] = none := by
      apply lookup_simple_eq_none
      intro letter inside same
      rw [List.singleton_inj.mp same] at plain
      exact plain inside
    simp [decodeBody?, inline, unlisted]
  | continuation listed =>
    have all : ∀ written ∈ lineEnds, decodeBody? written = some [] := by decide
    exact all _ listed

theorem decode_eq (means : Means body t) : decode ('\\' :: body) = t := by
  rw [decode, List.drop_one, List.tail_cons, means.decodeBody?_eq, Option.getD_some]

end Means
end Escape

theorem Node.Contributes.piece_eq (contributes : n.Contributes t) : Literal.piece n = .ok t := by
  cases contributes with
  | raw kind scalar text =>
    simp [Literal.piece, kind, Node.decodedText?, text, Utf8.decodeLossy_encode scalar]
  | @escape body _ kind means text =>
    have scalar : Text.IsScalar ('\\' :: body) :=
      Text.IsScalar.cons_iff.mpr ⟨Text.not_isSurrogate_ofChar _, means.isScalar⟩
    simp [Literal.piece, kind, Node.decodedText?, text, Utf8.decodeLossy_encode scalar, means.decode_eq]

theorem Node.mapM_piece_eq {pieces : List Node} {parts : List Text}
    (contribute : List.Forall₂ Node.Contributes pieces parts) : pieces.mapM Literal.piece = .ok parts := by
  induction contribute with
  | nil => rfl
  | cons first _ ih =>
    rw [List.mapM_cons, first.piece_eq, ih]
    rfl

theorem Node.Spells.literal?_eq (spells : n.Spells t) : n.literal? = .ok (some t) := by
  obtain ⟨parts, pieces, joined⟩ := spells.pieces
  exact Node.literal?_eq_some_iff.mpr ⟨spells.kind, parts, Node.mapM_piece_eq pieces, joined⟩

/-- The value of a literal does not depend on its spelling, and hence no limit tells two spellings apart. -/
theorem literal?_of_spellings {n n' : Node} {t : Text} (one : n.Spells t) (other : n'.Spells t) :
    n.literal? = .ok (some t) ∧ n'.literal? = .ok (some t) ∧
      ∀ limit : Int, n.literal?.map (·.bind (Specifier.classify · limit)) =
        n'.literal?.map (·.bind (Specifier.classify · limit)) := by
  refine ⟨one.literal?_eq, other.literal?_eq, ?_⟩
  intro limit
  rw [one.literal?_eq, other.literal?_eq]

def quoted (pieces : List (String × Text)) : Node where
  kind := "string"
  children := [{ kind := "\"", named := false }] ++
    pieces.map (fun (kind, written) => { kind := kind, text := some (Utf8.encode written) }) ++
    [{ kind := "\"", named := false }]

def fewEscapes : Node :=
  quoted [("string_fragment", ".."), ("escape_sequence", "\\/"), ("string_fragment", "a"),
    ("escape_sequence", "\\n")]

def manyEscapes : Node :=
  quoted [("escape_sequence", "\\x2E"), ("escape_sequence", "\\u002e"), ("escape_sequence", "\\\r\n"),
    ("escape_sequence", "\\u\x7b0002F\x7d"), ("string_fragment", "a\n")]

theorem literal?_of_spellings_climbing :
    fewEscapes.Spells "../a\n" ∧ manyEscapes.Spells "../a\n" ∧
      manyEscapes.literal? = .ok (some ("../a\n" : Text)) ∧
      fewEscapes.literal?.map (·.bind (Specifier.classify · 0)) =
        manyEscapes.literal?.map (·.bind (Specifier.classify · 0)) := by
  have dot : HexNumeral "2E" 0x2E := .append (.one (.lower 2)) (.upper 14)
  have smallDot : HexNumeral "002e" 0x2E :=
    .append (.append (.append (.one (.lower 0)) (.lower 0)) (.lower 2)) (.lower 14)
  have slash : HexNumeral "0002F" 0x2F :=
    .append (.append (.append (.append (.one (.lower 0)) (.lower 0)) (.lower 0)) (.lower 2)) (.upper 15)
  have one : fewEscapes.Spells "../a\n" := by
    refine ⟨rfl, ["..", "/", "a", "\n"], ?_, by decide⟩
    refine .cons (.raw rfl (Text.IsScalar.ofString _) rfl) (.cons ?_ (.cons ?_ (.cons ?_ .nil)))
    · exact .escape rfl (.itself (c := '/') (by decide) (by decide)) rfl
    · exact .raw rfl (Text.IsScalar.ofString _) rfl
    · exact .escape rfl (.control (c := '\n') (by decide)) rfl
  have other : manyEscapes.Spells "../a\n" := by
    refine ⟨rfl, [".", ".", "", "/", "a\n"], ?_, by decide⟩
    refine .cons ?_ (.cons ?_ (.cons ?_ (.cons ?_ (.cons ?_ .nil))))
    · exact .escape rfl (.byte (c := '.') dot rfl) rfl
    · exact .escape rfl (.unit (c := '.') smallDot rfl) rfl
    · exact .escape rfl (.continuation (by decide)) rfl
    · exact .escape rfl (.braced (c := '/') slash) rfl
    · exact .raw rfl (Text.IsScalar.ofString _) rfl
  obtain ⟨_, value, same⟩ := literal?_of_spellings one other
  exact ⟨one, other, value, same 0⟩

end ImportDepth
