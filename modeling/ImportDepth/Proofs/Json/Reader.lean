import ImportDepth.Proofs.Digit
import ImportDepth.Proofs.Json.Grammar

/-! Reading is complete: every text of the grammar is read as the value that it spells. Blanks are skipped
where the grammar allows them, a number is read up to a mark that does not continue it, and the bound on the
reading is never reached, because each part is shorter than the text around it. -/
namespace ImportDepth.Json

variable {s t u rest : Text} {c d e : CodePoint} {v : Value} {n fuel : Nat}

theorem skipSpace_append (blank : Blank s) (t : Text) : skipSpace (s ++ t) = skipSpace t :=
  List.dropWhile_append_of_pos blank

theorem skipSpace_cons (visible : isSpace c = false) : skipSpace (c :: rest) = c :: rest := by
  rw [skipSpace, List.dropWhile_cons, visible]
  rfl

/-- Blanks in front of a value do not matter. -/
theorem readValue?_append (blank : Blank s) (t : Text) : readValue? fuel (s ++ t) = readValue? fuel t := by
  cases fuel with
  | zero => rfl
  | succ fuel => rw [readValue?, readValue?, skipSpace_append blank]

/-! Strings. -/

theorem joinSurrogates_cons (scalar : ¬ c.IsSurrogate) (t : Text) :
    joinSurrogates (c :: t) = c :: joinSurrogates t := by
  cases t with
  | nil => rfl
  | cons d t =>
    have unpaired : paired? c d = none := by
      rw [paired?, if_neg]
      rintro ⟨high, below, _⟩
      exact scalar ⟨high, by omega⟩
    rw [joinSurrogates, unpaired]

/-- Units that join to one character are read as this character. -/
theorem readString?_of_readUnits? {units : Text}
    (read : readUnits? (s ++ t) = (readUnits? t).map fun (others, rest) => (units ++ others, rest))
    (joined : ∀ others, joinSurrogates (units ++ others) = c :: joinSurrogates others) :
    readString? (s ++ t) = (readString? t).map fun (text, rest) => (c :: text, rest) := by
  rw [readString?, readString?, read, Option.map_map, Option.map_map]
  congr 1
  funext part
  exact congrArg (·, part.2) (joined part.1)

theorem readUnits?_unit {c : CodePoint} (spelled : SpellsUnit s c.val) (t : Text) :
    readUnits? ('\\' :: 'u' :: (s ++ t)) = (readUnits? t).map fun (others, rest) => (c :: others, rest) := by
  generalize same : c.val = n at spelled
  cases spelled with
  | @digits x₁ x₂ x₃ x₄ w x y z first second third fourth =>
    have known : unit? x₁ x₂ x₃ x₄ = some c := by
      have value : (w * 16 + x) * 256 + (y * 16 + z) = c.val := by omega
      rw [unit?, first, second, third, fourth]
      simp only [bind, Option.bind, value]
      rw [CodePoint.ofNat?, dif_pos c.isLt]
    rw [List.cons_append, List.cons_append, List.cons_append, List.cons_append, List.nil_append,
      readUnits?.eq_def]
    dsimp only
    rw [if_neg (by decide), if_pos rfl, if_pos rfl, known]
    cases readUnits? t <;> rfl

theorem readString?_itself (unquoted : c ≠ ('"' : CodePoint)) (unescaped : c ≠ ('\\' : CodePoint))
    (printed : ¬ c.val < 0x20) (scalar : ¬ c.IsSurrogate) :
    readString? ([c] ++ t) = (readString? t).map fun (text, rest) => (c :: text, rest) := by
  refine @readString?_of_readUnits? _ _ _ [c] ?_ (joinSurrogates_cons scalar)
  rw [List.singleton_append, readUnits?.eq_def]
  dsimp only
  rw [if_neg unquoted, if_neg unescaped, if_neg printed]
  cases readUnits? t <;> rfl

theorem readString?_short (listed : (e, c) ∈ shortEscapes) :
    readString? ([('\\' : CodePoint), e] ++ t) =
      (readString? t).map fun (text, rest) => (c :: text, rest) := by
  have table : shortEscapes.all (fun entry => entry.1 ≠ ('u' : CodePoint) ∧
      shortEscapes.lookup entry.1 = some entry.2 ∧ ¬ entry.2.IsSurrogate) = true := by decide
  obtain ⟨other, short, scalar⟩ := of_decide_eq_true (List.all_eq_true.mp table _ listed)
  refine @readString?_of_readUnits? _ _ _ [c] ?_ (joinSurrogates_cons scalar)
  rw [List.cons_append, List.singleton_append, readUnits?.eq_def]
  dsimp only at other short ⊢
  rw [if_neg (by decide), if_pos rfl, if_neg other, short]
  cases readUnits? t <;> rfl

theorem readString?_pair {high low : CodePoint} (first : SpellsUnit s high.val)
    (second : SpellsUnit u low.val) (upper : 0xD800 ≤ high.val ∧ high.val < 0xDC00)
    (lower : 0xDC00 ≤ low.val ∧ low.val < 0xE000)
    (joined : c.val = 0x10000 + (high.val - 0xD800) * 0x400 + (low.val - 0xDC00)) :
    readString? ((('\\' : CodePoint) :: 'u' :: (s ++ ('\\' : CodePoint) :: 'u' :: u)) ++ t) =
      (readString? t).map fun (text, rest) => (c :: text, rest) := by
  have paired : paired? high low = some c := by
    rw [paired?, if_pos ⟨upper.1, upper.2, lower.1, lower.2⟩, ← joined, CodePoint.ofNat?, dif_pos c.isLt]
  refine @readString?_of_readUnits? _ _ _ [high, low] ?_ fun others => ?_
  · rw [List.cons_append, List.cons_append, List.append_assoc, readUnits?_unit first, List.cons_append,
      List.cons_append, readUnits?_unit second, Option.map_map]
    rfl
  · rw [List.cons_append, List.singleton_append, joinSurrogates, paired]

theorem readString?_character (spelled : SpellsCharacter s c) (t : Text) :
    readString? (s ++ t) = (readString? t).map fun (text, rest) => (c :: text, rest) := by
  cases spelled with
  | itself unquoted unescaped printed scalar => exact readString?_itself unquoted unescaped printed scalar
  | short listed => exact readString?_short listed
  | unit spelled scalar =>
    exact @readString?_of_readUnits? _ _ _ [c] (readUnits?_unit spelled t) (joinSurrogates_cons scalar)
  | pair high low upper lower joined => exact readString?_pair high low upper lower joined

theorem readString?_append (spelled : SpellsText t u) (rest : Text) :
    readString? (t ++ ('"' : CodePoint) :: rest) = some (u, rest) := by
  induction spelled with
  | nil =>
    rw [List.nil_append, readString?, readUnits?.eq_def]
    dsimp only
    rw [if_pos rfl]
    rfl
  | cons first _ ih => rw [List.append_assoc, readString?_character first, ih, Option.map_some]

/-! Numbers. -/

def Stops (c : CodePoint) : Prop :=
  c.isAsciiDigit = false ∧ c ≠ ('.' : CodePoint) ∧ c ≠ ('e' : CodePoint) ∧ c ≠ ('E' : CodePoint)

instance : DecidablePred Stops := fun _ => inferInstanceAs (Decidable (_ ∧ _))

def Ends (rest : Text) : Prop := ∀ c ∈ rest.head?, Stops c

theorem ends_nil : Ends [] := by
  intro c first
  cases first

theorem ends_cons (stops : Stops c) (rest : Text) : Ends (c :: rest) := by
  intro d first
  cases first
  exact stops

theorem isSpace_of_digit (digit : c.isAsciiDigit = true) : isSpace c = false := by
  simp only [CodePoint.isAsciiDigit, Bool.and_eq_true, decide_eq_true_eq] at digit
  simp only [isSpace, List.contains_eq_mem, List.mem_cons, List.not_mem_nil, or_false, Bool.decide_or,
    Bool.or_eq_false_iff, decide_eq_false_iff_not]
  omega

theorem ends_append (blank : Blank s) (ends : Ends rest) : Ends (s ++ rest) := by
  cases s with
  | nil => exact ends
  | cons c s =>
    have space : isSpace c = true := blank c List.mem_cons_self
    have digit : c.isAsciiDigit = false := by
      apply eq_false_of_ne_true
      intro digit
      rw [isSpace_of_digit digit] at space
      cases space
    have stops : Stops c :=
      ⟨digit, ne_of_class space (by decide), ne_of_class space (by decide), ne_of_class space (by decide)⟩
    exact ends_cons stops (s ++ rest)

theorem readFraction?_of_ends (ends : Ends rest) : readFraction? rest = some ([], rest) := by
  cases rest with
  | nil => rfl
  | cons c rest => rw [readFraction?, if_neg (ends c rfl).2.1]

theorem readExponent?_of_ends (ends : Ends rest) : readExponent? rest = some (none, rest) := by
  cases rest with
  | nil => rfl
  | cons c rest =>
    obtain ⟨_, _, small, capital⟩ := ends c rfl
    rw [readExponent?.eq_def]
    exact if_neg (not_or.mpr ⟨small, capital⟩)

theorem readNumber?_append {negative : Bool} (numeral : IsNumeral t) (ends : Ends rest) :
    readNumber? negative (t ++ rest) =
      some (.int (if negative then -Text.decimal t else Text.decimal t), rest) := by
  have digits : (t ++ rest).takeWhile (·.isAsciiDigit) = t := by
    rw [List.takeWhile_append_of_pos numeral.digits]
    cases rest with
    | nil => exact List.append_nil _
    | cons c rest => rw [List.takeWhile_cons_of_neg (by simp [(ends c rfl).1]), List.append_nil]
  have whole : (if t.head? = some ('0' : CodePoint) then t.take 1 else t) = t := by
    by_cases zero : t.head? = some ('0' : CodePoint)
    · rw [if_pos zero, ← numeral.unpadded zero, List.take_length]
    · rw [if_neg zero]
  simp [readNumber?, digits, whole, numeral.nonempty, readFraction?_of_ends ends, readExponent?_of_ends ends]

/-! Values. -/

theorem readWord?_of_digit (digit : c.isAsciiDigit = true) : readWord? (c :: rest) = none := by
  have first : words.all (fun entry => entry.1.head?.any (! ·.isAsciiDigit)) = true := by decide
  refine List.findSome?_eq_none_iff.mpr fun ⟨word, value⟩ member => if_neg ?_
  rw [isPrefixOf_of_digit digit (List.all_eq_true.mp first _ member)]
  exact Bool.false_ne_true

theorem readWord?_of_signed_digit (digit : c.isAsciiDigit = true) :
    readWord? (d :: c :: rest) = none := by
  have second : words.all (fun entry => entry.1.tail.head?.any (! ·.isAsciiDigit)) = true := by decide
  refine List.findSome?_eq_none_iff.mpr fun ⟨word, value⟩ member => if_neg ?_
  have other := List.all_eq_true.mp second _ member
  cases word with
  | nil => cases other
  | cons mark word =>
    have different : word.isPrefixOf (c :: rest) = false := isPrefixOf_of_digit digit other
    rw [List.isPrefixOf, different, Bool.and_false]
    exact Bool.false_ne_true

theorem IsNumeral.exists_eq_cons (numeral : IsNumeral t) :
    ∃ c tail, t = c :: tail ∧ c.isAsciiDigit = true := by
  obtain ⟨c, tail, rfl⟩ := List.exists_cons_of_ne_nil numeral.nonempty
  exact ⟨c, tail, rfl, numeral.digits c List.mem_cons_self⟩

/-- No value begins with a blank or with the end of a list. -/
theorem Spells.exists_eq_cons (spelled : Spells t v) :
    ∃ c tail, t = c :: tail ∧ isSpace c = false ∧ c ≠ (']' : CodePoint) := by
  cases spelled with
  | int spelled =>
    cases spelled with
    | natural numeral =>
      obtain ⟨c, tail, rfl, digit⟩ := numeral.exists_eq_cons
      exact ⟨c, tail, rfl, isSpace_of_digit digit, ne_of_class digit (by decide)⟩
    | negative numeral => exact ⟨_, _, rfl, by decide, by decide⟩
  | bool b => cases b <;> exact ⟨_, _, rfl, by decide, by decide⟩
  | _ => exact ⟨_, _, rfl, by decide, by decide⟩

theorem Member.exists_eq_cons {entry : Text × Value} (spelled : Member Spells t entry) :
    ∃ c tail, t = c :: tail ∧ isSpace c = false ∧ c ≠ ('\x7d' : CodePoint) := by
  cases spelled
  exact ⟨_, _, rfl, by decide, by decide⟩

/-- Where there are parts, the first visible mark is not the closing one. -/
theorem Separated.exists_skipSpace {α : Type} {part : Text → α → Prop} {close : CodePoint} {all : List α}
    (starts : ∀ {t a}, part t a → ∃ c tail, t = c :: tail ∧ isSpace c = false ∧ c ≠ close)
    (spelled : Separated part t all) (rest : Text) :
    ∃ c after, skipSpace (t ++ rest) = c :: after ∧ c ≠ close := by
  have padded : ∀ {t a}, Padded part t a → ∀ rest,
      ∃ c after, skipSpace (t ++ rest) = c :: after ∧ c ≠ close := by
    rintro _ _ ⟨left, inner, right⟩ rest
    obtain ⟨c, tail, rfl, visible, other⟩ := starts inner
    rw [List.append_assoc, skipSpace_append left, List.append_assoc, List.cons_append, skipSpace_cons visible]
    exact ⟨c, _, rfl, other⟩
  cases spelled with
  | one only => exact padded only rest
  | more first _ =>
    rw [List.append_assoc]
    exact padded first _

/-- Texts of the grammar are read as long as the bound on the reading allows for their length. -/
structure Reads (fuel : Nat) : Prop where
  value : ∀ {t v rest}, Spells t v → Ends rest → t.length ≤ fuel →
    readValue? fuel (t ++ rest) = some (v, rest)
  items : ∀ {t items}, Separated Spells t items → t.length < fuel → ∀ rest,
    readItems? fuel (t ++ (']' : CodePoint) :: rest) = some (items, rest)
  entries : ∀ {t entries done}, Separated (Member Spells) t entries →
    ((done ++ entries).map Prod.fst).Nodup → t.length < fuel → ∀ rest,
    readEntries? fuel done (t ++ ('\x7d' : CodePoint) :: rest) = some (done ++ entries, rest)

/-- The blanks after a value are left. -/
theorem Reads.padded (reads : Reads fuel) (spelled : Padded Spells t v) (enough : t.length ≤ fuel)
    (ends : Ends rest) :
    ∃ left, readValue? fuel (t ++ rest) = some (v, left) ∧ skipSpace left = skipSpace rest := by
  obtain @⟨s, t, u, _, before, inner, after⟩ := spelled
  rw [List.length_append, List.length_append] at enough
  refine ⟨u ++ rest, ?_, skipSpace_append after rest⟩
  rw [List.append_assoc, readValue?_append before, List.append_assoc]
  exact reads.value inner (ends_append after ends) (by omega)

theorem Reads.items_succ {items : List Value} (reads : Reads fuel) (spelled : Separated Spells t items)
    (enough : t.length < fuel + 1) (rest : Text) :
    readItems? (fuel + 1) (t ++ (']' : CodePoint) :: rest) = some (items, rest) := by
  cases spelled with
  | one only =>
    obtain ⟨left, read, next⟩ := reads.padded only (by omega) (ends_cons (c := ']') (by decide) rest)
    rw [readItems?, read]
    simp only [bind, Option.bind]
    rw [next, skipSpace_cons (by decide)]
    rfl
  | more first others =>
    rw [List.length_append, List.length_cons] at enough
    rw [List.append_assoc, List.cons_append]
    obtain ⟨left, read, next⟩ := reads.padded first (by omega) (ends_cons (c := ',') (by decide) _)
    rw [readItems?, read]
    simp only [bind, Option.bind]
    rw [next, skipSpace_cons (by decide)]
    dsimp only
    rw [if_pos rfl, reads.items others (by omega)]

theorem assign_of_not_mem {entries : List (Text × Value)} {key : Text} (fresh : key ∉ entries.map Prod.fst) :
    Value.assign entries key v = entries ++ [(key, v)] := by
  induction entries with
  | nil => rfl
  | cons entry entries ih =>
    rw [List.map_cons, List.mem_cons, not_or] at fresh
    rw [Value.assign, if_neg (Ne.symm fresh.1), ih fresh.2, List.cons_append]

/-- One member is read and put after those before it; the next mark decides whether there are more. -/
theorem Reads.member {done : List (Text × Value)} {entry : Text × Value} (reads : Reads fuel)
    (spelled : Padded (Member Spells) t entry) (fresh : entry.1 ∉ done.map Prod.fst)
    (enough : t.length ≤ fuel) (stops : Stops c) (visible : isSpace c = false) (rest : Text) :
    readEntries? (fuel + 1) done (t ++ c :: rest) =
      if c = (',' : CodePoint) then readEntries? fuel (done ++ [entry]) rest
      else if c = ('\x7d' : CodePoint) then some (done ++ [entry], rest)
      else none := by
  obtain ⟨before, inner, after⟩ := spelled
  obtain ⟨named, left, right, held⟩ := inner
  have value := reads.value held (ends_append after (ends_cons stops rest)) (by simp at enough; omega)
  simp only [List.append_assoc, List.cons_append]
  rw [readEntries?, skipSpace_append before, skipSpace_cons (by decide)]
  dsimp only
  rw [if_pos rfl, readString?_append named]
  simp only [bind, Option.bind]
  rw [skipSpace_append left, skipSpace_cons (by decide)]
  dsimp only
  rw [if_pos rfl, readValue?_append right, value]
  dsimp only
  rw [skipSpace_append after, skipSpace_cons visible, assign_of_not_mem fresh]

theorem fresh_of_distinct {entries done : List (Text × Value)} {entry : Text × Value}
    (distinct : ((done ++ entry :: entries).map Prod.fst).Nodup) : entry.1 ∉ done.map Prod.fst := by
  intro member
  rw [List.map_append, List.nodup_append] at distinct
  exact distinct.2.2 entry.1 member entry.1 List.mem_cons_self rfl

theorem Reads.entries_succ {entries done : List (Text × Value)} (reads : Reads fuel)
    (spelled : Separated (Member Spells) t entries) (distinct : ((done ++ entries).map Prod.fst).Nodup)
    (enough : t.length < fuel + 1) (rest : Text) :
    readEntries? (fuel + 1) done (t ++ ('\x7d' : CodePoint) :: rest) = some (done ++ entries, rest) := by
  cases spelled with
  | one only =>
    rw [reads.member only (fresh_of_distinct distinct) (by omega) (by decide) (by decide),
      if_neg (by decide), if_pos rfl]
  | more first others =>
    have fresh := fresh_of_distinct distinct
    rw [List.length_append, List.length_cons] at enough
    rw [List.append_cons done] at distinct ⊢
    rw [List.append_assoc, List.cons_append, reads.member first fresh (by omega) (by decide) (by decide),
      if_pos rfl, reads.entries others distinct (by omega)]

theorem readValue?_word (known : readWord? (c :: rest) = some (v, u)) (visible : isSpace c = false)
    (unmarked : c ≠ ('"' : CodePoint) ∧ c ≠ ('[' : CodePoint) ∧ c ≠ ('\x7b' : CodePoint)) :
    readValue? (fuel + 1) (c :: rest) = some (v, u) := by
  obtain ⟨unquoted, unlisted, untabled⟩ := unmarked
  rw [readValue?, skipSpace_cons visible]
  dsimp only
  rw [if_neg unquoted, if_neg unlisted, if_neg untabled, known]
  rfl

theorem readValue?_integer {n : Int} (spelled : SpellsInteger t n) (ends : Ends rest) :
    readValue? (fuel + 1) (t ++ rest) = some (.int n, rest) := by
  cases spelled with
  | natural numeral =>
    have number := @readNumber?_append _ _ false numeral ends
    obtain ⟨c, tail, rfl, digit⟩ := numeral.exists_eq_cons
    have other : ∀ mark : CodePoint, mark.isAsciiDigit = false → c ≠ mark := fun mark => ne_of_class digit
    rw [List.cons_append] at number ⊢
    rw [readValue?, skipSpace_cons (isSpace_of_digit digit)]
    dsimp only
    rw [if_neg (other '"' (by decide)), if_neg (other '[' (by decide)), if_neg (other '\x7b' (by decide)),
      readWord?_of_digit digit, if_neg (other '-' (by decide)), number]
    rfl
  | negative numeral =>
    have number := @readNumber?_append _ _ true numeral ends
    obtain ⟨c, tail, rfl, digit⟩ := numeral.exists_eq_cons
    rw [List.cons_append] at number
    rw [List.cons_append, List.cons_append, readValue?, skipSpace_cons (by decide)]
    dsimp only
    rw [if_neg (by decide), if_neg (by decide), if_neg (by decide), readWord?_of_signed_digit digit,
      if_pos rfl, number]
    rfl

theorem readValue?_quote (t : Text) : readValue? (fuel + 1) (('"' : CodePoint) :: t) =
    (readString? t).map fun (text, rest) => (.text text, rest) := by
  rw [readValue?, skipSpace_cons (by decide)]
  rfl

theorem readValue?_bracket (first : skipSpace t = c :: rest) :
    readValue? (fuel + 1) (('[' : CodePoint) :: t) = if c = (']' : CodePoint) then some (.list [], rest)
      else (readItems? fuel t).map fun (items, rest) => (.list items, rest) := by
  rw [readValue?, skipSpace_cons (by decide)]
  dsimp only
  rw [if_neg (by decide), if_pos rfl, first]

theorem readValue?_brace (first : skipSpace t = c :: rest) :
    readValue? (fuel + 1) (('\x7b' : CodePoint) :: t) = if c = ('\x7d' : CodePoint) then some (.table [], rest)
      else (readEntries? fuel [] t).map fun (entries, rest) => (.table entries, rest) := by
  rw [readValue?, skipSpace_cons (by decide)]
  dsimp only
  rw [if_neg (by decide), if_neg (by decide), if_pos rfl, first]

theorem Reads.value_succ (reads : Reads fuel) (spelled : Spells t v) (ends : Ends rest)
    (enough : t.length ≤ fuel + 1) : readValue? (fuel + 1) (t ++ rest) = some (v, rest) := by
  have close : ∀ {t c}, Blank t → isSpace c = false → skipSpace (t ++ c :: rest) = c :: rest := by
    intro t c blank visible
    rw [skipSpace_append blank, skipSpace_cons visible]
  cases spelled with
  | null => exact readValue?_word rfl (by decide) (by decide)
  | bool b => cases b <;> exact readValue?_word rfl (by decide) (by decide)
  | int spelled => exact readValue?_integer spelled ends
  | text spelled =>
    rw [List.cons_append, List.append_assoc, List.singleton_append, readValue?_quote,
      readString?_append spelled]
    rfl
  | noItems blank =>
    rw [List.cons_append, List.append_assoc, List.singleton_append,
      readValue?_bracket (close blank (by decide)), if_pos rfl]
  | items spelled =>
    rw [List.length_cons, List.length_append, List.length_singleton] at enough
    rw [List.cons_append, List.append_assoc, List.singleton_append]
    obtain ⟨c, after, first, other⟩ :=
      spelled.exists_skipSpace Spells.exists_eq_cons ((']' : CodePoint) :: rest)
    rw [readValue?_bracket first, if_neg other, reads.items spelled (by omega)]
    rfl
  | noMembers blank =>
    rw [List.cons_append, List.append_assoc, List.singleton_append,
      readValue?_brace (close blank (by decide)), if_pos rfl]
  | members spelled distinct =>
    rw [List.length_cons, List.length_append, List.length_singleton] at enough
    rw [List.cons_append, List.append_assoc, List.singleton_append]
    obtain ⟨c, after, first, other⟩ :=
      spelled.exists_skipSpace Member.exists_eq_cons (('\x7d' : CodePoint) :: rest)
    rw [readValue?_brace first, if_neg other, @Reads.entries _ reads _ _ [] spelled distinct (by omega)]
    rfl

theorem reads (fuel : Nat) : Reads fuel := by
  induction fuel with
  | zero =>
    refine ⟨fun spelled _ enough => ?_, fun _ enough => ?_, fun _ _ enough => ?_⟩
    · obtain ⟨c, tail, rfl, _⟩ := spelled.exists_eq_cons
      contradiction
    · contradiction
    · contradiction
  | succ fuel ih => exact ⟨ih.value_succ, ih.items_succ, ih.entries_succ⟩

/-- Reading keeps to the grammar, whose texts therefore spell one value each. -/
theorem isStandard_read? : IsStandard read? := by
  intro t v spelled
  obtain ⟨left, read, next⟩ := (reads (t.length + 1)).padded spelled (Nat.le_succ _) ends_nil
  rw [List.append_nil] at read
  rw [read?, read]
  dsimp only
  rw [next]
  rfl

end ImportDepth.Json
