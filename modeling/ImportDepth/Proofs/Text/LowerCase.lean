import ImportDepth.Text.LowerCase

/-! Lower case and ASCII. What is ASCII in lower case was ASCII before, with one exception: the Kelvin sign becomes
a `k`. So where lower case is compared with ASCII that has no `k`, the letters of other scripts play no part, nor
does the place of a sigma, and what is left is the small form of the capital letters from A to Z. -/
namespace ImportDepth

namespace CodePoint

/-- The small form of a capital letter of ASCII; all else stays. -/
def asciiLower (c : CodePoint) : CodePoint :=
  if h : 0x41 ≤ c.val ∧ c.val ≤ 0x5A then ⟨c.val + 0x20, by omega⟩ else c

variable {c d mark : CodePoint}

theorem val_asciiLower (c : CodePoint) :
    c.asciiLower.val = if 0x41 ≤ c.val ∧ c.val ≤ 0x5A then c.val + 0x20 else c.val := by
  unfold asciiLower
  split <;> rfl

theorem asciiLower_idem (c : CodePoint) : c.asciiLower.asciiLower = c.asciiLower := by
  have capitals := val_asciiLower c
  rw [Fin.ext_iff, val_asciiLower c.asciiLower, if_neg]
  split at capitals <;> omega

/-- The marks before the letters are nothing's small form. -/
theorem asciiLower_eq_mark_iff (before : mark.val < 0x41) : c.asciiLower = mark ↔ c = mark := by
  rw [Fin.ext_iff, Fin.ext_iff, val_asciiLower]
  split <;> omega

/-- Two runs lead to ASCII: that of the capital letters of ASCII, and the Kelvin sign. -/
theorem lowerRuns_cases : ∀ run ∈ lowerRuns, run = (0x41, 0x5A, 1, 0x61) ∨
    run = (0x212A, 0x212A, 1, 0x6B) ∨ 0x80 ≤ run.1 ∧ 0x80 ≤ run.2.2.2 := by decide +kernel

theorem val_getD_ofNat? (n : Nat) (c : CodePoint) :
    ((ofNat? n).getD c).val = if n < 0x110000 then n else c.val := by
  unfold ofNat?
  split <;> rfl

theorem lower_cases (c : CodePoint) :
    c.lower = c.asciiLower ∨ 0x80 ≤ c.val ∧ (c.lower.val = 0x6B ∨ 0x80 ≤ c.lower.val) := by
  rw [Fin.ext_iff, val_asciiLower]
  unfold lower
  dsimp only
  split
  · rename_i first last stride image found
    have inside := List.find?_some found
    simp only [Bool.and_eq_true, decide_eq_true_eq] at inside
    rw [val_getD_ofNat?]
    rcases lowerRuns_cases _ (List.mem_of_find?_eq_some found) with capitals | kelvin | high
    · cases capitals
      rw [if_pos (by omega), if_pos inside.1]
      omega
    · cases kelvin
      rw [if_pos (by omega)]
      omega
    · dsimp only at high
      split <;> omega
  · rename_i missing
    have outside := List.find?_eq_none.mp missing (0x41, 0x5A, 1, 0x61) (by decide)
    simp only [Nat.mod_one, beq_self_eq_true, Bool.and_true, Bool.and_eq_true, decide_eq_true_eq] at outside
    rw [if_neg outside]
    exact .inl rfl

theorem lower_eq_iff (ascii : d.val < 0x80) (other : d.val ≠ 0x6B) : c.lower = d ↔ c.asciiLower = d := by
  rcases lower_cases c with same | ⟨high, image⟩
  · rw [same]
  · have fixed := val_asciiLower c
    rw [if_neg (by omega)] at fixed
    constructor
    · rintro rfl
      omega
    · rintro rfl
      omega

end CodePoint

namespace Text

variable {s t e : Text}

def SameButCase (s t : Text) : Prop := s.map CodePoint.asciiLower = t.map CodePoint.asciiLower

instance (s t : Text) : Decidable (s.SameButCase t) := inferInstanceAs (Decidable (_ = _))

theorem sameButCase_map_iff : SameButCase (s.map CodePoint.asciiLower) t ↔ s.SameButCase t := by
  have twice : (s.map CodePoint.asciiLower).map CodePoint.asciiLower = s.map CodePoint.asciiLower := by
    rw [List.map_map]
    exact List.map_congr_left fun c _ => CodePoint.asciiLower_idem c
  rw [SameButCase, twice, SameButCase]

/-- A code point goes its own way, or is one of the two letters whose lower case is not ASCII anyway. -/
theorem lowerAfter_cons (before : Text) (c : CodePoint) (rest : Text) :
    lowerAfter before (c :: rest) = c.lower :: lowerAfter (c :: before) rest ∨
      0x80 ≤ c.val ∧ ∃ d ∈ lowerAfter before (c :: rest), 0x80 ≤ d.val := by
  rw [lowerAfter]
  split
  · exact .inr ⟨by omega, 0x307, by simp, by decide⟩
  · split
    · refine .inr ⟨by omega, ?_⟩
      split
      · exact ⟨0x3C2, by simp, by decide⟩
      · exact ⟨0x3C3, by simp, by decide⟩
    · exact .inl rfl

theorem lowerAfter_eq_iff (plain : ∀ d ∈ e, d.val < 0x80 ∧ d.val ≠ 0x6B) (before : Text) :
    lowerAfter before t = e ↔ t.map CodePoint.asciiLower = e := by
  induction t generalizing before e with
  | nil => rfl
  | cons c rest ih =>
    rcases lowerAfter_cons before c rest with same | ⟨high, d, member, above⟩
    · rw [same]
      cases e with
      | nil => simp
      | cons d e =>
        obtain ⟨⟨ascii, other⟩, others⟩ := List.forall_mem_cons.mp plain
        rw [List.map_cons, List.cons.injEq, List.cons.injEq, CodePoint.lower_eq_iff ascii other, ih others]
    · have fixed := CodePoint.val_asciiLower c
      rw [if_neg (by omega)] at fixed
      apply iff_of_false
      · rintro rfl
        have below := plain d member
        omega
      · rintro rfl
        have below := plain c.asciiLower (by simp)
        omega

/-- Against ASCII without `k`, lower case is about the case of ASCII letters only. -/
theorem lower_eq_iff (plain : ∀ d ∈ e, d.val < 0x80 ∧ d.val ≠ 0x6B) :
    t.lower = e ↔ t.map CodePoint.asciiLower = e :=
  lowerAfter_eq_iff plain []

end Text
end ImportDepth
