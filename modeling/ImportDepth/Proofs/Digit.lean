import ImportDepth.Proofs.Text
import ImportDepth.Text.Digit

/-! Digits of numbers. What a number writes down are ASCII digits, which no mark is, and reading them gives
the number back; an integer has a sign in front, so no two integers are written alike. -/
namespace ImportDepth

variable {c mark : CodePoint} {rest : Text} {n : Nat}

theorem ne_of_class {p : CodePoint → Bool} (inside : p c = true) (outside : p mark = false) :
    c ≠ mark := by
  rintro rfl
  rw [inside] at outside
  cases outside

/-- A number with one digit more than are converted. -/
def Text.vastNumber : Text := List.replicate (maximumDigits + 1) ('1' : CodePoint)

theorem Text.isAsciiDigit_of_mem_vastNumber (member : c ∈ vastNumber) : c.isAsciiDigit = true := by
  rw [List.eq_of_mem_replicate member]
  decide

theorem Text.maximumDigits_lt_vastNumber : maximumDigits < vastNumber.length := by
  rw [vastNumber, List.length_replicate]
  exact Nat.lt_succ_self _

/-- Digits begin no word. -/
theorem isPrefixOf_of_digit {word : Text} (digit : c.isAsciiDigit = true)
    (other : word.head?.any (! ·.isAsciiDigit) = true) : word.isPrefixOf (c :: rest) = false := by
  cases word with
  | nil => simp at other
  | cons mark word =>
    have different : (mark == c) = false :=
      beq_false_of_ne (ne_of_class digit (by simpa using other)).symm
    rw [List.isPrefixOf, different, Bool.false_and]

namespace Text

theorem isAsciiDigit_of_mem_ofNat (member : c ∈ ofNat n) : c.isAsciiDigit = true := by
  obtain ⟨digit, written, rfl⟩ := List.mem_map.mp member
  have isDigit := Nat.isDigit_of_mem_toDigits (by decide) (by decide) written
  simp only [Char.isDigit, ge_iff_le, Bool.and_eq_true, decide_eq_true_eq, UInt32.le_iff_toNat_le] at isDigit
  rw [CodePoint.isAsciiDigit, Bool.and_eq_true]
  exact ⟨decide_eq_true isDigit.1, decide_eq_true isDigit.2⟩

theorem not_mem_ofNat (other : mark.isAsciiDigit = false) : mark ∉ ofNat n :=
  fun member => ne_of_class (isAsciiDigit_of_mem_ofNat member) other rfl

theorem not_mem_ofInt {k : Int} (other : mark.isAsciiDigit = false) (unsigned : mark ≠ '-') :
    mark ∉ ofInt k := by
  cases k with
  | ofNat k => exact not_mem_ofNat other
  | negSucc k =>
    intro member
    rcases List.mem_cons.mp member with same | member
    · exact unsigned same
    · exact not_mem_ofNat other member

theorem ofNat_ne_nil (n : Nat) : ofNat n ≠ [] := by
  rw [ofNat, ne_eq, List.map_eq_nil_iff]
  exact Nat.toDigits_ne_nil

theorem decimal_ofNat (n : Nat) : decimal (ofNat n) = n := by
  calc decimal (ofNat n) = Nat.ofDigitChars 10 (Nat.toDigits 10 n) 0 := by
        rw [decimal, ofNat, List.foldl_map, Nat.ofDigitChars]
        congr 1
        funext value digit
        rw [Nat.mul_comm]
        rfl
    _ = n := Nat.ofDigitChars_ten_toDigits

theorem ofInt_injective : Function.Injective ofInt := by
  have numbers {m n : Nat} (same : ofNat m = ofNat n) : m = n := by
    rw [← decimal_ofNat m, same, decimal_ofNat]
  have signed {m n : Nat} : ofNat m ≠ CodePoint.ofChar '-' :: ofNat n := by
    intro same
    have absent : CodePoint.ofChar '-' ∉ ofNat m := not_mem_ofNat (by decide)
    exact absent (same ▸ List.mem_cons_self)
  intro k l same
  match k, l with
  | .ofNat m, .ofNat n => rw [numbers same]
  | .ofNat m, .negSucc n => exact absurd same signed
  | .negSucc m, .ofNat n => exact absurd same.symm signed
  | .negSucc m, .negSucc n =>
    have after := numbers (List.cons.inj same).2
    rw [Nat.succ.inj after]

/-- Only zero is written with a zero in front. -/
theorem eq_zero_of_head_ofNat (zero : (ofNat n).head? = some ('0' : CodePoint)) : n = 0 := by
  induction n using Nat.strongRecOn with
  | _ n ih =>
    by_cases single : n < 10
    · have written : ∀ n < 10, CodePoint.ofChar (Nat.digitChar n) = '0' → n = 0 := by decide
      rw [ofNat, Nat.toDigits_eq_if (by decide), if_pos single] at zero
      exact written n single (Option.some.inj zero)
    · obtain ⟨first, others, written⟩ := List.exists_cons_of_ne_nil (ofNat_ne_nil (n / 10))
      have longer : ofNat n = ofNat (n / 10) ++ [CodePoint.ofChar (Nat.digitChar (n % 10))] := by
        rw [ofNat, Nat.toDigits_of_base_le (by decide) (by omega), List.map_append]
        rfl
      rw [longer, written] at zero
      have shorter : n / 10 = 0 := ih (n / 10) (by omega) (by rw [written]; exact zero)
      omega

end Text
end ImportDepth
