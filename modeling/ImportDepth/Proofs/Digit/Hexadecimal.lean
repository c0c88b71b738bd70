import ImportDepth.Proofs.Text
import ImportDepth.Text.Integer

/-! Hexadecimal numerals. The reader of integers allows much more (blanks, a sign, underscores, a mark of the
base, digits of every script); digits alone it reads as the number that they spell, however many zeros stand in
front. -/
namespace ImportDepth

inductive HexDigit : CodePoint → Nat → Prop where
  | lower (d : Fin 16) : HexDigit (Nat.digitChar d) d
  | upper (d : Fin 16) : HexDigit (Nat.digitChar d).toUpper d

inductive HexNumeral : Text → Nat → Prop where
  | one {c : CodePoint} {d : Nat} (digit : HexDigit c d) : HexNumeral [c] d
  | append {t : Text} {n : Nat} {c : CodePoint} {d : Nat} (others : HexNumeral t n) (digit : HexDigit c d) :
      HexNumeral (t ++ [c]) (n * 16 + d)

variable {t : Text} {c : CodePoint} {d n : Nat}

namespace HexDigit

theorem digitValue? (digit : HexDigit c d) : c.digitValue? = some d ∧ d < 16 := by
  cases digit with
  | lower d | upper d => exact ⟨by revert d; decide, d.isLt⟩

/-- The marks around digits that the reader of integers and the escapes know. -/
def marks : Text := "_-+xX\x7b"

theorem not_mem_marks (digit : HexDigit c d) : c ∉ marks := by
  cases digit with
  | lower d | upper d => revert d; decide

theorem surroundsInteger_eq_false (digit : HexDigit c d) : Text.surroundsInteger c = false := by
  cases digit with
  | lower d | upper d => revert d; decide

theorem not_isSurrogate (digit : HexDigit c d) : ¬ c.IsSurrogate := by
  cases digit with
  | lower d | upper d => exact Text.not_isSurrogate_ofChar _

theorem ne_mark (digit : HexDigit c d) (mark : CodePoint) (listed : mark ∈ marks) : c ≠ mark := by
  rintro rfl
  exact digit.not_mem_marks listed

end HexDigit

namespace Text

theorem dropWhile_eq_self {p : CodePoint → Bool} (free : ∀ c ∈ t, p c = false) : t.dropWhile p = t := by
  cases t with
  | nil => rfl
  | cons c t => exact List.dropWhile_cons_of_neg (by simp [free c])

theorem trim_eq_self {p : CodePoint → Bool} (free : ∀ c ∈ t, p c = false) : t.trim p = t := by
  rw [trim, dropWhile_eq_self free, dropEndWhile, dropWhile_eq_self, List.reverse_reverse]
  intro c member
  exact free c (List.mem_reverse.mp member)

/-- One more digit behind others. -/
theorem digits?_append {base value count k : Nat} {before : Bool}
    (read : digits? base before value count t = some (n, k)) (digit : c.digitValue? = some d)
    (small : d < base) (other : c ≠ '_') :
    digits? base before value count (t ++ [c]) = some (n * base + d, k + 1) := by
  fun_induction digits? base before value count t with
  | case1 value count =>
    cases read
    simp [digits?, digit, small, other]
  | case2 => cases read
  | case3 value count rest ih => simpa [digits?] using ih read
  | case4 => cases read
  | case5 before value count e rest unmarked d' digit' small' ih =>
    simpa [digits?, unmarked, digit', small'] using ih read
  | case6 => cases read
  | case7 => cases read

end Text

namespace HexNumeral

theorem digit_of_mem (numeral : HexNumeral t n) (member : c ∈ t) : ∃ d, HexDigit c d := by
  induction numeral with
  | one digit =>
    cases List.mem_singleton.mp member
    exact ⟨_, digit⟩
  | append _ digit ih =>
    rcases List.mem_append.mp member with inside | last
    · exact ih inside
    · cases List.mem_singleton.mp last
      exact ⟨_, digit⟩

theorem isScalar (numeral : HexNumeral t n) : t.IsScalar := by
  intro c member
  obtain ⟨d, digit⟩ := numeral.digit_of_mem member
  exact digit.not_isSurrogate

theorem ne_nil (numeral : HexNumeral t n) : t ≠ [] := by
  cases numeral <;> simp

theorem digits?_eq (numeral : HexNumeral t n) : ∃ count, Text.digits? 16 false 0 0 t = some (n, count) := by
  induction numeral with
  | one digit =>
    obtain ⟨value, small⟩ := digit.digitValue?
    exact ⟨1, by simp [Text.digits?, value, small, digit.ne_mark '_' (by decide)]⟩
  | append _ digit ih =>
    obtain ⟨count, read⟩ := ih
    obtain ⟨value, small⟩ := digit.digitValue?
    exact ⟨count + 1, Text.digits?_append read value small (digit.ne_mark '_' (by decide))⟩

theorem natural?_eq (numeral : HexNumeral t n) : Text.natural? 16 t = some n := by
  obtain ⟨count, read⟩ := numeral.digits?_eq
  unfold Text.natural?
  -- The second digit is no letter that would announce the base.
  split
  · rename_i o x rest
    obtain ⟨d, digit⟩ := numeral.digit_of_mem (c := x) (by simp)
    have unannounced : ¬ (x = 'x' ∨ x = 'X') := by
      simp [digit.ne_mark 'x' (by decide), digit.ne_mark 'X' (by decide)]
    simp [unannounced, read]
  · simp [read]

theorem integer?_eq (numeral : HexNumeral t n) : t.integer? 16 = some (n : Int) := by
  have unblank : ∀ c ∈ t, Text.surroundsInteger c = false := by
    intro c member
    obtain ⟨d, digit⟩ := numeral.digit_of_mem member
    exact digit.surroundsInteger_eq_false
  obtain ⟨c, rest, rfl⟩ := List.exists_cons_of_ne_nil numeral.ne_nil
  obtain ⟨d, digit⟩ := numeral.digit_of_mem (c := c) (by simp)
  rw [Text.integer?, Text.trim_eq_self unblank]
  simp [digit.ne_mark '-' (by decide), digit.ne_mark '+' (by decide), numeral.natural?_eq]

end HexNumeral
end ImportDepth
