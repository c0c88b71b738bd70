import ImportDepth.Proofs.RequireCallee
import ImportDepth.Proofs.Utf8.Ascii
import Mathlib.Data.List.Basic

/-! Lossy reading against the standard. What is written is the UTF-8 of the standard, which strings of
characters have too; bytes that are the UTF-8 of no string always leave a U+FFFD. So a text without one was read
from its own UTF-8 and from nothing else, and a name is never found in overlong, truncated or otherwise broken
bytes. -/
namespace ImportDepth

namespace CodePoint

theorem ofChar_injective : Function.Injective ofChar := by
  intro c d same
  have numbers : (ofChar c).val = (ofChar d).val := congrArg Fin.val same
  exact Char.toNat_inj.mp numbers

/-- Every code point but the surrogates is a character. -/
theorem exists_ofChar {c : CodePoint} (scalar : ¬ c.IsSurrogate) : ∃ character, ofChar character = c := by
  have valid : c.val.isValidChar := by
    have bound := c.isLt
    unfold IsSurrogate at scalar
    unfold Nat.isValidChar
    omega
  exact ⟨Char.ofNatAux c.val valid, rfl⟩

end CodePoint

namespace Text

theorem exists_ofString {t : Text} (scalar : t.IsScalar) : ∃ s : String, ofString s = t := by
  induction t with
  | nil => exact ⟨"", rfl⟩
  | cons c rest ih =>
    obtain ⟨first, others⟩ := IsScalar.cons_iff.mp scalar
    obtain ⟨character, rfl⟩ := CodePoint.exists_ofChar first
    obtain ⟨s, rfl⟩ := ih others
    refine ⟨String.ofList (character :: s.toList), ?_⟩
    rw [ofString, String.toList_ofList, List.map_cons]
    rfl

theorem replacement_mem_ofString_iff {s : String} :
    CodePoint.replacement ∈ ofString s ↔ '\uFFFD' ∈ s.toList := by
  have mark : CodePoint.replacement = CodePoint.ofChar '\uFFFD' := by decide
  rw [mark, ofString, List.mem_map_of_injective CodePoint.ofChar_injective]

end Text

namespace Utf8

variable {bytes : Bytes} {s : String}

theorem encodeOne_ofChar (c : Char) : encodeOne (CodePoint.ofChar c) = String.utf8EncodeChar c := by
  have bound : c.val.toNat < 0x110000 := (CodePoint.ofChar c).isLt
  have number : (CodePoint.ofChar c).val = c.val.toNat := rfl
  unfold encodeOne String.utf8EncodeChar
  rw [number]
  generalize c.val.toNat = n at bound
  have tail (m : Nat) : 0x80 + m = m + 0x80 := Nat.add_comm 0x80 m
  simp only [tail]
  -- The lengths agree at the same bounds, and below each of them the lead byte has room for all that is left.
  by_cases one : n < 0x80
  · rw [if_pos one, if_pos (show n ≤ 0x7F by omega)]
  · rw [if_neg one, if_neg (show ¬ n ≤ 0x7F by omega)]
    by_cases two : n < 0x800
    · rw [if_pos two, if_pos (show n ≤ 0x7FF by omega), Nat.mod_eq_of_lt (show n / 64 < 32 by omega),
        Nat.add_comm 0xC0]
    · rw [if_neg two, if_neg (show ¬ n ≤ 0x7FF by omega)]
      by_cases three : n < 0x10000
      · rw [if_pos three, if_pos (show n ≤ 0xFFFF by omega), Nat.mod_eq_of_lt (show n / 4096 < 16 by omega),
          Nat.add_comm 0xE0]
      · rw [if_neg three, if_neg (show ¬ n ≤ 0xFFFF by omega),
          Nat.mod_eq_of_lt (show n / 262144 < 8 by omega), Nat.add_comm 0xF0]

/-- Strings are written with their UTF-8. -/
theorem encode_ofString (s : String) : encode (Text.ofString s) = s.toUTF8.data.toList := by
  calc encode (Text.ofString s) = s.toList.flatMap String.utf8EncodeChar := by
        rw [encode, Text.ofString, List.flatMap_map]
        simp only [encodeOne_ofChar]
    _ = (String.ofList s.toList).toUTF8.data.toList := by
        rw [String.toUTF8_eq_toByteArray]
        exact List.toList_data_toByteArray.symm
    _ = s.toUTF8.data.toList := by rw [String.ofList_toList]

/-- Bytes that are the UTF-8 of no string. -/
def Malformed (bytes : Bytes) : Prop := ∀ s : String, s.toUTF8.data.toList ≠ bytes

theorem malformed_iff : Malformed bytes ↔ decode? bytes = none := by
  constructor
  · intro malformed
    rw [Option.eq_none_iff_forall_ne_some]
    intro t read
    obtain ⟨written, scalar⟩ := decode?_eq_some_iff.mp read
    obtain ⟨s, rfl⟩ := Text.exists_ofString scalar
    exact malformed s ((encode_ofString s).symm.trans written.symm)
  · intro unread s same
    have read := decode?_eq_some_iff.mpr ⟨rfl, Text.IsScalar.ofString s⟩
    rw [encode_ofString, same, unread] at read
    cases read

instance (bytes : Bytes) : Decidable (Malformed bytes) := decidable_of_iff _ malformed_iff.symm

theorem decodeLossy_eq_ofString_iff (whole : '\uFFFD' ∉ s.toList) :
    decodeLossy bytes = Text.ofString s ↔ bytes = s.toUTF8.data.toList := by
  rw [← encode_ofString]
  exact decodeLossy_eq_iff (Text.IsScalar.ofString s) (mt Text.replacement_mem_ofString_iff.mp whole)

/-- Broken bytes leave a mark. -/
theorem replacement_mem_of_malformed (malformed : Malformed bytes) :
    CodePoint.replacement ∈ decodeLossy bytes := by
  by_contra whole
  obtain ⟨s, read⟩ := Text.exists_ofString (decodeLossy_isScalar bytes)
  rw [← read, Text.replacement_mem_ofString_iff] at whole
  exact malformed s ((decodeLossy_eq_ofString_iff whole).mp read.symm).symm

/-- Reading begins anew at an ASCII byte. -/
theorem decodeLossy_append_of_lt {b : UInt8} (ascii : b < 0x80) (front back : Bytes) :
    decodeLossy (front ++ b :: back) = decodeLossy front ++ decodeLossy (b :: back) := by
  have small : b.toNat < 0x80 := UInt8.lt_iff_toNat_lt.mp ascii
  have byte : b = .ofNat (⟨b.toNat, by omega⟩ : CodePoint).val := UInt8.ofNat_toNat.symm
  have alone := decodeLossy_append_of_ascii (c := ⟨b.toNat, by omega⟩) small [] back
  rw [List.nil_append] at alone
  rw [byte, decodeLossy_append_of_ascii small, alone]
  rfl

/-- Lossy reading is faithful away from U+FFFD. Bytes are read as a string without it exactly if they are its
UTF-8; so a node is named `require` exactly if its text is these seven bytes. Bytes that are the UTF-8 of no
string always leave a U+FFFD, and never are that name. What stands before a byte below 0x80 is read apart from
what it begins. -/
theorem decodeLossy_faithful :
    (∀ (bytes : Bytes) (s : String), '\uFFFD' ∉ s.toList →
      (decodeLossy bytes = Text.ofString s ↔ bytes = s.toUTF8.data.toList)) ∧
    (∀ (n : Node) (kind : String), n.isNamed kind "require" = true ↔
      n.kind = kind ∧ n.text = some [0x72, 0x65, 0x71, 0x75, 0x69, 0x72, 0x65]) ∧
    (∀ bytes : Bytes, Malformed bytes → CodePoint.replacement ∈ decodeLossy bytes ∧
      ∀ (n : Node) (kind : String), n.text = some bytes → n.isNamed kind "require" = false) ∧
    ∀ (front back : Bytes) (b : UInt8), b < 0x80 →
      decodeLossy (front ++ b :: back) = decodeLossy front ++ decodeLossy (b :: back) := by
  have bytes : encode "require" = [0x72, 0x65, 0x71, 0x75, 0x69, 0x72, 0x65] := by decide
  have named (n : Node) (kind : String) : n.isNamed kind "require" = true ↔
      n.kind = kind ∧ n.text = some (encode "require") :=
    Node.isNamed_iff kind (Text.IsScalar.ofString _) (by decide)
  refine ⟨fun _ _ => decodeLossy_eq_ofString_iff, ?_, ?_, fun front back b ascii =>
    decodeLossy_append_of_lt ascii front back⟩
  · intro n kind
    rw [named, bytes]
  · intro bytes malformed
    refine ⟨replacement_mem_of_malformed malformed, ?_⟩
    intro n kind text
    rw [Bool.eq_false_iff, ne_eq, named]
    rintro ⟨_, written⟩
    rw [text, encode_ofString] at written
    exact malformed _ (Option.some.inj written).symm

-- An overlong form of the first letter is two broken sequences.
example : decodeLossy [0xC1, 0xB2, 0x65, 0x71] =
    [CodePoint.replacement, CodePoint.replacement, CodePoint.ofChar 'e', CodePoint.ofChar 'q'] := by decide

/-- The name with its first letter overlong in two bytes, and with a longer sequence that breaks off behind it. -/
def brokenRequire : Bytes := [0xC1, 0xB2, 0x65, 0x71, 0x75, 0x69, 0x72, 0x65, 0xF0, 0x9F, 0x98]

theorem decodeLossy_faithful_broken :
    ('\uFFFD' ∉ "é€😀".toList ∧
      decodeLossy [0xC3, 0xA9, 0xE2, 0x82, 0xAC, 0xF0, 0x9F, 0x98, 0x80] = Text.ofString "é€😀") ∧
    (Malformed brokenRequire ∧ CodePoint.replacement ∈ decodeLossy brokenRequire ∧
      Node.isNamed { kind := "identifier", text := some brokenRequire } "identifier" "require" = false) ∧
    (0x2F : UInt8) < 0x80 ∧
      decodeLossy ([0xE2, 0x82] ++ [0x2F, 0x82]) = decodeLossy [0xE2, 0x82] ++ decodeLossy [0x2F, 0x82] := by
  have whole : '\uFFFD' ∉ "é€😀".toList := by decide
  have bytes : [0xC3, 0xA9, 0xE2, 0x82, 0xAC, 0xF0, 0x9F, 0x98, 0x80] = "é€😀".toUTF8.data.toList := by decide
  have malformed : Malformed brokenRequire := by decide
  have ascii : (0x2F : UInt8) < 0x80 := by decide
  obtain ⟨read, _, marked, anew⟩ := decodeLossy_faithful
  obtain ⟨left, unnamed⟩ := marked brokenRequire malformed
  exact ⟨⟨whole, (read _ _ whole).mpr bytes⟩, ⟨malformed, left, unnamed _ _ rfl⟩, ascii,
    anew [0xE2, 0x82] [0x82] 0x2F ascii⟩

end Utf8
end ImportDepth
