import ImportDepth.Proofs.Digit
import ImportDepth.Toml.Reader

/-! Documents that state an integer of too many digits under a bare key. The reader takes all the digits
for one integer and then gives up on it, although the document is well formed. -/
namespace ImportDepth.Toml

/-- A positive decimal integer with more digits than are read. -/
structure IsLong (digits : Text) : Prop where
  number : ∀ c ∈ digits, c.isAsciiDigit = true
  nonzero : digits.head? ≠ some ('0' : CodePoint)
  long : Text.maximumDigits < digits.length

structure IsBareKey (key : Text) : Prop where
  nonempty : key ≠ []
  bare : ∀ c ∈ key, isBare c = true

variable {key digits rest : Text} {c mark : CodePoint} {fuel : Nat}

theorem ascii_of_isBare (bare : isBare c = true) : c.val < 0x80 := by
  simp only [isBare, CodePoint.isAsciiDigit, Bool.or_eq_true, Bool.and_eq_true, decide_eq_true_eq] at bare
  rcases bare with (((digit | upper) | lower) | rfl) | rfl
  · omega
  · omega
  · omega
  · decide
  · decide

/-- A statement of a number under a bare key is ASCII. -/
theorem ascii_of_statement (proper : IsBareKey key) (number : ∀ c ∈ digits, c.isAsciiDigit = true) :
    ∀ c ∈ key ++ (" = " ++ digits), c.val < 0x80 := by
  have marks : (" = " : Text).all (fun c => decide (c.val < 0x80)) = true := by decide
  intro c member
  rcases List.mem_append.mp member with member | member
  · exact ascii_of_isBare (proper.bare c member)
  · rcases List.mem_append.mp member with member | member
    · exact of_decide_eq_true (List.all_eq_true.mp marks c member)
    · exact ascii_of_isBare (by simp [isBare, number c member])

theorem unifyLineEnds_of_not_mem (plain : ('\r' : CodePoint) ∉ rest) : unifyLineEnds rest = rest := by
  fun_induction unifyLineEnds rest with
  | case1 c d rest ends => simp [← ends.1] at plain
  | case2 c d rest _ ih => rw [ih fun member => plain (.tail _ member)]
  | case3 => rfl

theorem skipSpace_cons (visible : isSpace c = false) : skipSpace (c :: rest) = c :: rest := by
  rw [skipSpace, List.dropWhile_cons, visible]
  rfl

/-- A bare key is read up to the blank that ends it. -/
theorem readKey_of_bare (proper : IsBareKey key) :
    readKey (fuel + 1) (key ++ (" = " ++ rest)) = .ok ([key], "= " ++ rest) := by
  have taken : (key ++ (" = " ++ rest)).takeWhile isBare = key := by
    rw [List.takeWhile_append_of_pos proper.bare]
    exact List.append_nil key
  have dropped : (key ++ (" = " ++ rest)).dropWhile isBare = " = " ++ rest := by
    rw [List.dropWhile_append_of_pos proper.bare]
    rfl
  have part : readKeyPart (key ++ (" = " ++ rest)) = .ok (key, " = " ++ rest) := by
    obtain ⟨first, others, rfl⟩ := List.exists_cons_of_ne_nil proper.nonempty
    have starts : isBare first = true := proper.bare first (by simp)
    rw [List.cons_append] at taken dropped ⊢
    rw [readKeyPart, if_pos starts, taken, dropped]
  rw [readKey, part]
  rfl

theorem readDigits_eq {isDigit : CodePoint → Bool} {before : Bool}
    (number : ∀ c ∈ digits, isDigit c = true) : readDigits isDigit before digits = (digits, []) := by
  induction digits generalizing before with
  | nil => rfl
  | cons c rest ih =>
    have head : isDigit c = true := number c (by simp)
    rw [readDigits, if_pos head, ih fun d member => number d (.tail _ member)]

theorem readMark?_of_digits (number : ∀ c ∈ digits, c.isAsciiDigit = true)
    (other : mark.isAsciiDigit = false) : readMark? mark digits = none := by
  cases digits with
  | nil => rfl
  | cons c rest => rw [readMark?, if_neg (ne_of_class (number c (by simp)) other)]

/-- Digits alone are no date and no time, which have marks between their fields. -/
theorem readMoment?_of_digits (number : ∀ c ∈ digits, c.isAsciiDigit = true) :
    readMoment? digits = none := by
  have unmarked : ∀ n mark, mark.isAsciiDigit = false → readMark? mark (digits.drop n) = none :=
    fun n mark => readMark?_of_digits fun c member => number c (List.mem_of_mem_drop member)
  have field : ∀ {count low high value after}, readField? count low high digits = some (value, after) →
      after = digits.drop count := by
    intro count low high value after taken
    unfold readField? at taken
    dsimp only at taken
    split at taken
    · cases taken
      rfl
    · cases taken
  have date : readDate? digits = none := by
    unfold readDate?
    cases taken : readField? 4 0 9999 digits with
    | none => rfl
    | some read =>
      obtain ⟨year, after⟩ := read
      cases field taken
      simp [unmarked 4 '-' (by decide)]
  have time : skipTime? digits = none := by
    unfold skipTime?
    cases taken : readField? 2 0 23 digits with
    | none => rfl
    | some read =>
      obtain ⟨hour, after⟩ := read
      cases field taken
      simp [unmarked 2 ':' (by decide)]
  simp [readMoment?, date, time]

/-- An integer of too many digits is taken for an integer and refused. -/
theorem readNumber?_of_long (integer : IsLong digits) :
    readNumber? digits = some (.error .oversizedInteger) := by
  obtain ⟨number, nonzero, long⟩ := integer
  cases digits with
  | nil => simp at long
  | cons c rest =>
    have digit : c.isAsciiDigit = true := number c (by simp)
    have positive : c ≠ ('0' : CodePoint) := by simpa using nonzero
    have unbased : readBased? (c :: rest) = none := by
      cases rest with
      | nil => rfl
      | cons d rest => rw [readBased?, if_neg positive]
    have unsigned : readSign (c :: rest) = (false, c :: rest) := by
      rw [readSign, if_neg (ne_of_class digit (by decide)),
        if_neg (ne_of_class digit (by decide))]
    have whole : readWhole? (c :: rest) = some (c :: rest, []) := by
      rw [readWhole?, if_neg positive, readDigits_eq number]
    have decimal : readDecimal? (c :: rest) = some (.error .oversizedInteger) := by
      rw [List.length_cons] at long
      simp [readDecimal?, unsigned, whole, readFraction?, readExponent?, long]
    rw [readNumber?, unbased, decimal]

theorem readValue_of_long (integer : IsLong digits) :
    readValue (fuel + 1) digits = .error .oversizedInteger := by
  have moment := readMoment?_of_digits integer.number
  have refused := readNumber?_of_long integer
  cases digits with
  | nil => exact absurd integer.long (by simp)
  | cons c rest =>
    have digit : c.isAsciiDigit = true := integer.number c (by simp)
    have other : ∀ mark : CodePoint, mark.isAsciiDigit = false → c ≠ mark := fun mark =>
      ne_of_class digit
    have unquoted : readString? (c :: rest) = none := by
      rw [readString?, isPrefixOf_of_digit digit (by decide), isPrefixOf_of_digit digit (by decide)]
      simp [other '"' (by decide), other '\'' (by decide)]
    have unworded : readWord? (c :: rest) = none := by
      rw [readWord?, isPrefixOf_of_digit digit (by decide), isPrefixOf_of_digit digit (by decide)]
      rfl
    rw [readValue, if_neg (other '[' (by decide)), if_neg (other '{' (by decide)), readScalar,
      unquoted, unworded, moment, refused]
    rfl

theorem readPair_of_long {d : Document} (proper : IsBareKey key) (integer : IsLong digits) :
    readPair d (key ++ (" = " ++ digits)) = .error .oversizedInteger := by
  have spaced : skipEquals ("= " ++ digits) = .ok digits := by
    have blank : skipSpace (" " ++ digits) = skipSpace digits := rfl
    cases digits with
    | nil => rfl
    | cons c rest =>
      have visible : isSpace c = false := by
        have different : ∀ mark : CodePoint, mark.isAsciiDigit = false → c ≠ mark := fun mark =>
          ne_of_class (integer.number c (by simp))
        simp [isSpace, different ' ' (by decide), different '\t' (by decide)]
      rw [skipSpace_cons visible] at blank
      exact congrArg Except.ok blank
  have refused : ∀ fuel, readValue (fuel + 1) digits = .error .oversizedInteger := fun fuel =>
    readValue_of_long integer
  simp only [readPair, readKey_of_bare proper, bind, Except.bind, spaced, refused]

/-- A document that states an integer of too many digits under a bare key cannot be read. -/
theorem read_of_long (proper : IsBareKey key) (integer : IsLong digits) :
    read (key ++ (" = " ++ digits)) = .error .oversizedInteger := by
  have pair : ∀ d, readPair d (key ++ (" = " ++ digits)) = .error .oversizedInteger := fun d =>
    readPair_of_long proper integer
  have plain : ('\r' : CodePoint) ∉ key ++ (" = " ++ digits) := by
    intro member
    rcases List.mem_append.mp member with member | member
    · exact absurd (proper.bare _ member) (by decide)
    · rcases List.mem_append.mp member with member | member
      · exact absurd member (by decide)
      · exact absurd (integer.number _ member) (by decide)
  rw [read, unifyLineEnds_of_not_mem plain]
  -- The first character of the key decides that the line is a pair and neither blank nor a header.
  obtain ⟨first, others, rfl⟩ := List.exists_cons_of_ne_nil proper.nonempty
  have starts : isBare first = true := proper.bare first (by simp)
  have other : ∀ mark : CodePoint, isBare mark = false → first ≠ mark := fun mark => ne_of_class starts
  have visible : isSpace first = false := by
    simp [isSpace, other ' ' (by decide), other '\t' (by decide)]
  rw [List.cons_append] at pair ⊢
  have neither : ¬ (first = ('#' : CodePoint) ∨ first = ('\n' : CodePoint)) := by
    simp [other '#' (by decide), other '\n' (by decide)]
  rw [readLines, skipSpace_cons visible, readStatement, if_neg neither, if_neg (other '[' (by decide)),
    pair]
  rfl

end ImportDepth.Toml
