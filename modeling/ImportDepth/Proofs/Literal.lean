import ImportDepth.Proofs.Digit
import ImportDepth.Proofs.Legible
import ImportDepth.Proofs.Utf8

/-! Where the surrogates in string literals come from. Broken bytes are read as U+FFFD, and a character
reference never stands for a surrogate. Only an escape that spells the number of one does. -/
namespace ImportDepth

variable {t written value after : Text} {n : Node}

namespace CharacterReference

theorem names_scalar : ∀ entry ∈ names, ∀ n ∈ entry.2, ¬ (0xD800 ≤ n ∧ n ≤ 0xDFFF) := by
  decide +kernel

theorem highControls_scalar : ∀ n ∈ highControls, ¬ (0xD800 ≤ n ∧ n ≤ 0xDFFF) := by decide

theorem eq_of_ofNat? {n : Nat} {c : CodePoint} (numbered : CodePoint.ofNat? n = some c) : c.val = n := by
  unfold CodePoint.ofNat? at numbered
  split at numbered
  · cases numbered
    rfl
  · cases numbered

theorem meaning?_isScalar (known : meaning? written = some value) : value.IsScalar := by
  obtain ⟨front, back, listed, _⟩ := List.lookup_eq_some_iff.mp known
  have member : (written, value) ∈ named := by rw [listed]; simp
  obtain ⟨⟨name, points⟩, inside, same⟩ := List.mem_map.mp member
  cases same
  intro c among
  obtain ⟨n, number, numbered⟩ := List.mem_filterMap.mp among
  have scalar := names_scalar _ inside n number
  rwa [← eq_of_ofNat? numbered] at scalar

theorem longestPrefix?_isScalar {length : Nat} (scalar : written.IsScalar)
    (known : longestPrefix? written length = some value) : value.IsScalar := by
  induction length with
  | zero => cases known
  | succ length ih =>
    rw [longestPrefix?] at known
    split at known
    · cases known
    · split at known
      · rename_i meant found
        cases known
        exact Text.IsScalar.append_iff.mpr
          ⟨meaning?_isScalar found, scalar.mono (List.drop_subset _ _)⟩
      · exact ih known

theorem ofName_isScalar (scalar : written.IsScalar) : (ofName written).IsScalar := by
  unfold ofName
  split
  · exact meaning?_isScalar ‹_›
  · cases known : longestPrefix? written (written.length - 1) with
    | none =>
      rw [Option.getD_none]
      exact Text.IsScalar.cons_iff.mpr ⟨Text.not_isSurrogate_ofChar '&', scalar⟩
    | some value => exact longestPrefix?_isScalar scalar known

theorem ofNumber_isScalar (n : Nat) : (ofNumber n).IsScalar := by
  have replaced : Text.IsScalar [CodePoint.replacement] := by decide
  unfold ofNumber
  split
  · exact replaced
  · split
    · intro c member
      obtain ⟨number, listed, numbered⟩ := Option.bind_eq_some_iff.mp (Option.mem_toList.mp member)
      have scalar := highControls_scalar number (List.mem_of_getElem? listed)
      rwa [← eq_of_ofNat? numbered] at scalar
    · split
      · exact replaced
      · split
        · exact replaced
        · split
          · exact fun c member => by cases member
          · rename_i scalar _
            exact Text.IsScalar.cons_iff.mpr ⟨scalar, fun c member => by cases member⟩

/-- A reference stands for scalars, and what follows it was there before. -/
theorem read?_isScalar (scalar : t.IsScalar) (found : read? t = some (.ok (value, after))) :
    value.IsScalar ∧ after.IsScalar := by
  obtain ⟨skips, meant⟩ := read?_eq_ok found
  refine ⟨?_, scalar.mono skips.subset⟩
  rcases meant with ⟨n, rfl⟩ | ⟨name, front, rfl⟩
  · exact ofNumber_isScalar n
  · exact ofName_isScalar (scalar.mono front.subset)

theorem resolveWithin_isScalar {fuel : Nat} (scalar : t.IsScalar) (resolved : resolveWithin fuel t = .ok value) :
    value.IsScalar := by
  fun_induction resolveWithin fuel t generalizing value with
  | case1 t =>
    cases resolved
    exact scalar
  | case2 =>
    cases resolved
    exact scalar
  | case3 fuel rest meaning after found ih =>
    obtain ⟨further, read, rfl⟩ := map_ok_iff.mp resolved
    obtain ⟨meant, behind⟩ := read?_isScalar (Text.IsScalar.cons_iff.mp scalar).2 found
    exact Text.IsScalar.append_iff.mpr ⟨meant, ih behind read⟩
  | case4 => cases resolved
  | case5 fuel rest _ ih | case6 fuel c rest _ ih =>
    obtain ⟨further, read, rfl⟩ := map_ok_iff.mp resolved
    obtain ⟨first, behind⟩ := Text.IsScalar.cons_iff.mp scalar
    exact Text.IsScalar.cons_iff.mpr ⟨first, ih behind read⟩

end CharacterReference

namespace Escape

/-- What stands after a backslash means scalars or a single code point. -/
theorem decodeBody?_cases {body : Text} (scalar : body.IsScalar) (known : decodeBody? body = some value) :
    value.IsScalar ∨ ∃ c, value = [c] := by
  unfold decodeBody? at known
  split at known
  · cases known
    exact .inl scalar
  · split at known
    · cases known
      exact .inl fun c member => by cases member
    · split at known
      · cases known
        exact .inr ⟨_, rfl⟩
      · split at known
        · obtain ⟨c, _, same⟩ := Option.map_eq_some_iff.mp known
          exact .inr ⟨c, same.symm⟩
        · split at known
          · obtain ⟨c, _, same⟩ := Option.map_eq_some_iff.mp known
            exact .inr ⟨c, same.symm⟩
          · cases known
            exact .inl scalar

/-- An escape either stands for scalars or for a single surrogate. -/
theorem decode_cases (scalar : written.IsScalar) :
    (decode written).IsScalar ∨ ∃ c : CodePoint, c.IsSurrogate ∧ decode written = [c] := by
  unfold decode
  cases known : decodeBody? (written.drop 1) with
  | none => exact .inl scalar
  | some value =>
    rcases decodeBody?_cases (scalar.mono (List.drop_subset 1 written)) known with meant | ⟨c, rfl⟩
    · exact .inl meant
    · by_cases surrogate : c.IsSurrogate
      · exact .inr ⟨c, surrogate, rfl⟩
      · refine .inl (Text.IsScalar.cons_iff.mpr ⟨surrogate, fun d member => by cases member⟩)

end Escape

def Node.IsSurrogateEscape (n : Node) : Prop :=
  n.kind = "escape_sequence" ∧
    ∃ c : CodePoint, c.IsSurrogate ∧ Escape.decode (n.decodedText?.getD []) = [c]

instance (n : Node) : Decidable n.IsSurrogateEscape :=
  decidable_of_iff (n.kind = "escape_sequence" ∧
      (Escape.decode (n.decodedText?.getD [])).length = 1 ∧
      (Escape.decode (n.decodedText?.getD [])).any (·.IsSurrogate) = true) <| by
    refine and_congr_right fun _ => ?_
    constructor
    · rintro ⟨single, found⟩
      obtain ⟨c, same⟩ := List.length_eq_one_iff.mp single
      exact ⟨c, by simpa [same] using found, same⟩
    · rintro ⟨c, surrogate, same⟩
      simp [same, surrogate]

theorem Node.decodedText_isScalar (n : Node) : (n.decodedText?.getD []).IsScalar := by
  unfold decodedText?
  cases n.text with
  | none => exact fun c member => by cases member
  | some bytes => exact Utf8.decodeLossy_isScalar bytes

theorem Literal.piece_isScalar_iff (read : piece n = .ok t) : t.IsScalar ↔ ¬ n.IsSurrogateEscape := by
  have scalar := n.decodedText_isScalar
  unfold piece at read
  unfold Node.IsSurrogateEscape
  dsimp only at read
  split at read
  · rename_i escape
    cases read
    constructor
    · rintro decoded ⟨_, c, surrogate, same⟩
      rw [same] at decoded
      exact decoded c (by simp) surrogate
    · intro other
      rcases Escape.decode_cases scalar with decoded | spelled
      · exact decoded
      · exact absurd ⟨escape, spelled⟩ other
  · rename_i unescaped
    split at read
    · simp [unescaped, CharacterReference.resolveWithin_isScalar scalar read]
    · cases read
      simp [unescaped, scalar]

/-- A string literal holds a surrogate exactly if one of its escapes stands for one. -/
theorem Node.literal_isScalar_iff (known : n.literal? = .ok (some t)) :
    t.IsScalar ↔ ∀ piece ∈ n.namedChildren, ¬ piece.IsSurrogateEscape := by
  obtain ⟨_, parts, read, rfl⟩ := literal?_eq_some_iff.mp known
  simp only [Text.IsScalar, List.mem_flatten]
  constructor
  · intro all piece member
    obtain ⟨part, inside, pieceRead⟩ := mem_of_mapM_ok read member
    exact (Literal.piece_isScalar_iff pieceRead).mp fun c held => all c ⟨part, inside, held⟩
  · rintro all c ⟨part, inside, held⟩
    obtain ⟨piece, member, pieceRead⟩ := exists_of_mem_mapM_ok read inside
    exact (Literal.piece_isScalar_iff pieceRead).mpr (all piece member) c held

def Node.decimalReference (digits : Text) : Node where
  kind := "html_character_reference"
  text := some (Utf8.encode (("&#" : Text) ++ digits ++ (";" : Text)))

/-- A literal with a decimal reference of too many digits cannot be read, whatever else stands in it. -/
theorem Node.isIllegible_of_decimalReference {digits : Text} (string : n.kind = "string")
    (number : ∀ c ∈ digits, c.isAsciiDigit = true) (long : Text.maximumDigits < digits.length)
    (held : decimalReference digits ∈ n.children) : n.IsIllegible := by
  have scalar : (("&#" : Text) ++ digits ++ (";" : Text)).IsScalar := by
    simp only [Text.IsScalar.append_iff, Text.IsScalar.ofString, true_and, and_true]
    intro c member surrogate
    have small := number c member
    simp only [CodePoint.isAsciiDigit, Bool.and_eq_true, decide_eq_true_eq] at small
    unfold CodePoint.IsSurrogate at surrogate
    omega
  have written : (decimalReference digits).decodedText?.getD [] =
      ("&#" : Text) ++ digits ++ (";" : Text) := by
    rw [decimalReference, decodedText?, Option.map_some, Option.getD_some, Utf8.decodeLossy_encode scalar]
  refine ⟨string, _, List.mem_filter.mpr ⟨held, rfl⟩, rfl, digits, number, long, ?_⟩
  rw [written]
  exact ⟨[], (";" : Text), rfl⟩

end ImportDepth
