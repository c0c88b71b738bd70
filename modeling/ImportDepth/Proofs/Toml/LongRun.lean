import ImportDepth.Proofs.Toml
import Mathlib.Data.List.Infix

/-! Where oversized integers come from. Every reader leaves an end of the text that it is given, and it gives
up on an integer only in front of a run of digits that is too long. A document without such a run is read, or
is malformed. -/
namespace ImportDepth.Toml

/-- A text with a run of digits, and perhaps underscores between them, that has more digits than are read. -/
def HasLongRun (t : Text) : Prop :=
  ∃ run, run <:+: t ∧ (∀ c ∈ run, c.isAsciiDigit = true ∨ c = ('_' : CodePoint)) ∧
    Text.maximumDigits < run.countP (·.isAsciiDigit)

/-- What is left of a text is its end, and an integer in it is oversized only if it is a long run. -/
def Leaves {α : Type} (left : α → Text) (t : Text) : Except Fault α → Prop
  | .ok a => left a <:+ t
  | .error fault => fault = .oversizedInteger → HasLongRun t

variable {α β : Type} {left : α → Text} {left' : β → Text} {s t rest : Text} {c : CodePoint}
  {x : Except Fault α} {f : α → Except Fault β}

theorem HasLongRun.mono (long : HasLongRun s) (part : s <:+ t) : HasLongRun t := by
  obtain ⟨run, inside, digits, many⟩ := long
  exact ⟨run, inside.trans part.isInfix, digits, many⟩

namespace Leaves

theorem malformed (left : α → Text) (t : Text) : Leaves left t (.error .malformed) := by
  intro oversized
  cases oversized

theorem mono (leaves : Leaves left s x) (part : s <:+ t) : Leaves left t x := by
  cases x with
  | ok a => exact List.IsSuffix.trans leaves part
  | error fault => exact fun oversized => (leaves oversized).mono part

theorem bind (first : Leaves left t x) (next : ∀ a, left a <:+ t → Leaves left' t (f a)) :
    Leaves left' t (x >>= f) := by
  cases x with
  | ok a => exact next a first
  | error fault => exact first

theorem map {g : α → β} (first : Leaves left t x) (same : ∀ a, left' (g a) = left a) :
    Leaves left' t (x.map g) := by
  cases x with
  | ok a =>
    change left' (g a) <:+ t
    rw [same a]
    exact first
  | error fault => exact first

end Leaves

/-! Numbers. -/

/-- The digits that are taken, and perhaps underscores between them, stand at the beginning. -/
theorem readDigits_spec (p : CodePoint → Bool) (before : Bool) (t : Text) :
    ∃ run, t = run ++ (readDigits p before t).2 ∧ (∀ c ∈ run, p c = true ∨ c = ('_' : CodePoint)) ∧
      run.countP p = (readDigits p before t).1.length := by
  induction t generalizing before with
  | nil => exact ⟨[], rfl, by simp, rfl⟩
  | cons c rest ih =>
    unfold readDigits
    split
    · rename_i digit
      obtain ⟨run, split, members, count⟩ := ih true
      refine ⟨c :: run, by rw [List.cons_append, ← split], ?_, ?_⟩
      · exact List.forall_mem_cons.mpr ⟨.inl digit, members⟩
      · rw [List.countP_cons_of_pos digit, count, List.length_cons]
    · rename_i other
      split
      · rename_i underscore
        obtain ⟨run, split, members, count⟩ := ih false
        refine ⟨c :: run, by rw [List.cons_append, ← split], ?_, ?_⟩
        · exact List.forall_mem_cons.mpr ⟨.inr underscore.1, members⟩
        · rw [List.countP_cons_of_neg other, count]
      · exact ⟨[], rfl, by simp, rfl⟩

theorem suffix_of_readDigits {p : CodePoint → Bool} {before : Bool} {digits : Text}
    (read : readDigits p before t = (digits, rest)) : rest <:+ t := by
  obtain ⟨run, split, _⟩ := readDigits_spec p before t
  rw [read] at split
  exact ⟨run, split.symm⟩

theorem suffix_of_readSign {negative : Bool} (read : readSign t = (negative, rest)) : rest <:+ t := by
  unfold readSign at read
  split at read
  · cases read
    exact List.suffix_refl _
  · split at read
    · cases read
      exact List.suffix_cons _ _
    · split at read
      · cases read
        exact List.suffix_cons _ _
      · cases read
        exact List.suffix_refl _

theorem suffix_of_readBased? {n : Nat} (read : readBased? t = some (n, rest)) : rest <:+ t := by
  unfold readBased? at read
  split at read
  · split at read
    · split at read
      · cases read
      · dsimp only at read
        split at read
        · cases read
        · rename_i digits after _ taken
          cases read
          have suffix := suffix_of_readDigits taken
          exact (suffix.trans (List.suffix_cons _ _)).trans (List.suffix_cons _ _)
    · cases read
  · cases read

theorem suffix_of_readWhole? {whole : Text} (read : readWhole? t = some (whole, rest)) :
    rest <:+ t ∧ (Text.maximumDigits < whole.length → HasLongRun t) := by
  unfold readWhole? at read
  split at read
  · cases read
  · rename_i c further
    split at read
    · cases read
      refine ⟨List.suffix_cons c _, fun many => ?_⟩
      rw [List.length_singleton] at many
      exact absurd many (by decide)
    · split at read
      · cases read
      · obtain ⟨run, split, members, count⟩ := readDigits_spec (·.isAsciiDigit) false (c :: further)
        rw [Option.some.inj read] at split count
        refine ⟨⟨run, split.symm⟩, fun many => ⟨run, ⟨[], rest, split.symm⟩, members, ?_⟩⟩
        rw [count]
        exact many

theorem suffix_of_readFraction? {digits : Text} (read : readFraction? t = some (digits, rest)) :
    rest <:+ t := by
  unfold readFraction? at read
  split at read
  · cases read
  · split at read
    · split at read
      · cases read
      · exact (suffix_of_readDigits (Option.some.inj read)).trans (List.suffix_cons _ _)
    · cases read

theorem suffix_of_readExponent? {n : Int} (read : readExponent? t = some (n, rest)) : rest <:+ t := by
  unfold readExponent? at read
  split at read
  · cases read
  · split at read
    · split at read
      rename_i negative unsigned signed
      split at read
      · cases read
      · rename_i digits after _ taken
        cases read
        have suffix := (suffix_of_readDigits taken).trans (suffix_of_readSign signed)
        exact suffix.trans (List.suffix_cons _ _)
    · cases read

theorem suffix_getD {read? : Option (α × Text)}
    (each : ∀ a rest, read? = some (a, rest) → rest <:+ t) (b : α) :
    (read?.getD (b, t)).2 <:+ t := by
  cases read? with
  | none => exact List.suffix_refl _
  | some read => exact each _ _ rfl

theorem leaves_readDecimal? {read : Except Fault (Value × Text)} (found : readDecimal? t = some read) :
    Leaves Prod.snd t read := by
  -- Fraction and exponent only matter for what is left behind them; the digits are those of the whole part.
  unfold readDecimal? at found
  split at found
  rename_i negative unsigned signed
  obtain ⟨⟨whole, after⟩, taken, found⟩ := Option.bind_eq_some_iff.mp found
  dsimp only at found
  have start : unsigned <:+ t := suffix_of_readSign signed
  obtain ⟨suffix, long⟩ := suffix_of_readWhole? taken
  have inner := suffix_getD (fun _ _ => suffix_of_readFraction? (t := after)) []
  generalize (readFraction? after).getD ([], after) = fraction at found inner
  have last := suffix_getD (fun _ _ => suffix_of_readExponent? (t := fraction.2)) 0
  generalize (readExponent? fraction.2).getD (0, fraction.2) = exponent at found last
  have whole : exponent.2 <:+ t := ((last.trans inner).trans suffix).trans start
  split at found
  · cases found
    exact whole
  · split at found
    · rename_i many
      cases found
      intro _
      exact (long many).mono start
    · cases found
      exact whole

theorem leaves_readNumber? {read : Except Fault (Value × Text)} (found : readNumber? t = some read) :
    Leaves Prod.snd t read := by
  unfold readNumber? at found
  split at found
  · rename_i n rest based
    cases found
    exact suffix_of_readBased? based
  · split at found
    · rename_i decimal
      cases found
      exact leaves_readDecimal? decimal
    · obtain ⟨⟨word, x⟩, _, taken⟩ := List.exists_of_findSome?_eq_some found
      dsimp only at taken
      split at taken
      · cases taken
        exact List.drop_suffix _ _
      · cases taken

/-! Dates and times. -/

theorem suffix_of_readField? {count low high n : Nat} (read : readField? count low high t = some (n, rest)) :
    rest <:+ t := by
  unfold readField? at read
  dsimp only at read
  split at read
  · cases read
    exact List.drop_suffix _ _
  · cases read

theorem suffix_of_readMark? {mark : CodePoint} (read : readMark? mark t = some rest) : rest <:+ t := by
  unfold readMark? at read
  split at read
  · cases read
  · split at read
    · cases read
      exact List.suffix_cons _ _
    · cases read

theorem skipFraction_suffix (t : Text) : skipFraction t <:+ t := by
  unfold skipFraction
  split
  · exact List.suffix_refl _
  · rename_i rest marked
    split
    · exact (List.dropWhile_suffix _).trans (suffix_of_readMark? marked)
    · exact List.suffix_refl _

theorem suffix_of_skipTime? (read : skipTime? t = some rest) : rest <:+ t := by
  unfold skipTime? at read
  obtain ⟨⟨hour, afterHour⟩, hours, read⟩ := Option.bind_eq_some_iff.mp read
  obtain ⟨afterColon, colon, read⟩ := Option.bind_eq_some_iff.mp read
  obtain ⟨⟨minute, afterMinute⟩, minutes, read⟩ := Option.bind_eq_some_iff.mp read
  obtain ⟨afterSecondColon, secondColon, read⟩ := Option.bind_eq_some_iff.mp read
  obtain ⟨⟨second, afterSecond⟩, seconds, read⟩ := Option.bind_eq_some_iff.mp read
  cases read
  calc skipFraction afterSecond <:+ afterSecond := skipFraction_suffix _
    _ <:+ afterSecondColon := suffix_of_readField? seconds
    _ <:+ afterMinute := suffix_of_readMark? secondColon
    _ <:+ afterColon := suffix_of_readField? minutes
    _ <:+ afterHour := suffix_of_readMark? colon
    _ <:+ t := suffix_of_readField? hours

theorem suffix_of_skipZone? (read : skipZone? t = some rest) : rest <:+ t := by
  unfold skipZone? at read
  split at read
  · cases read
  · rename_i c further
    split at read
    · cases read
      exact List.suffix_cons _ _
    · split at read
      · obtain ⟨⟨hour, afterHour⟩, hours, read⟩ := Option.bind_eq_some_iff.mp read
        obtain ⟨afterColon, colon, read⟩ := Option.bind_eq_some_iff.mp read
        obtain ⟨⟨minute, afterMinute⟩, minutes, read⟩ := Option.bind_eq_some_iff.mp read
        cases read
        calc rest <:+ afterColon := suffix_of_readField? minutes
          _ <:+ afterHour := suffix_of_readMark? colon
          _ <:+ further := suffix_of_readField? hours
          _ <:+ c :: further := List.suffix_cons _ _
      · cases read

theorem suffix_of_skipTimePart? (read : skipTimePart? t = some rest) : rest <:+ t := by
  unfold skipTimePart? at read
  split at read
  · cases read
  · rename_i c further
    split at read
    · obtain ⟨after, timed, rfl⟩ := Option.map_eq_some_iff.mp read
      have zone : (skipZone? after).getD after <:+ after := by
        cases zoned : skipZone? after with
        | none => exact List.suffix_refl _
        | some rest => exact suffix_of_skipZone? zoned
      exact (zone.trans (suffix_of_skipTime? timed)).trans (List.suffix_cons _ _)
    · cases read

theorem suffix_of_readDate? {date : Nat × Nat × Nat} (read : readDate? t = some (date, rest)) :
    rest <:+ t := by
  unfold readDate? at read
  obtain ⟨⟨year, afterYear⟩, years, read⟩ := Option.bind_eq_some_iff.mp read
  obtain ⟨afterDash, dash, read⟩ := Option.bind_eq_some_iff.mp read
  obtain ⟨⟨month, afterMonth⟩, months, read⟩ := Option.bind_eq_some_iff.mp read
  obtain ⟨afterSecondDash, secondDash, read⟩ := Option.bind_eq_some_iff.mp read
  obtain ⟨⟨day, afterDay⟩, days, read⟩ := Option.bind_eq_some_iff.mp read
  cases read
  calc rest <:+ afterSecondDash := suffix_of_readField? days
    _ <:+ afterMonth := suffix_of_readMark? secondDash
    _ <:+ afterDash := suffix_of_readField? months
    _ <:+ afterYear := suffix_of_readMark? dash
    _ <:+ t := suffix_of_readField? years

theorem leaves_readMoment? {read : Except Fault (Value × Text)} (found : readMoment? t = some read) :
    Leaves Prod.snd t read := by
  unfold readMoment? at found
  dsimp only at found
  split at found
  · rename_i year month day after dated
    split at found
    · cases found
      have time : (skipTimePart? after).getD after <:+ after := by
        cases timed : skipTimePart? after with
        | none => exact List.suffix_refl _
        | some rest => exact suffix_of_skipTimePart? timed
      exact time.trans (suffix_of_readDate? dated)
    · cases found
      exact Leaves.malformed _ _
  · obtain ⟨rest, timed, rfl⟩ := Option.map_eq_some_iff.mp found
    exact suffix_of_skipTime? timed

/-! Strings, keys and comments. -/

theorem skipSpace_suffix (t : Text) : skipSpace t <:+ t := List.dropWhile_suffix _

theorem leaves_skipComment (t : Text) : Leaves id t (skipComment t) := by
  unfold skipComment
  split
  · exact List.suffix_refl _
  · rename_i c rest
    split
    · dsimp only
      split
      · exact Leaves.malformed _ _
      · exact (List.drop_suffix _ _).trans (List.suffix_cons c rest)
    · exact List.suffix_refl _

theorem leaves_skipLines (fuel : Nat) (t : Text) : Leaves id t (skipLines fuel t) := by
  induction fuel generalizing t with
  | zero => exact List.suffix_refl t
  | succ fuel ih =>
    rw [skipLines]
    refine ((leaves_skipComment _).mono (List.dropWhile_suffix _)).bind fun after suffix => ?_
    split
    · exact List.suffix_refl t
    · exact (ih after).mono suffix

theorem leaves_readHex (count : Nat) (t : Text) : Leaves Prod.snd t (readHex count t) := by
  unfold readHex
  dsimp only
  split
  · split
    · exact List.drop_suffix _ _
    · exact Leaves.malformed _ _
  · exact Leaves.malformed _ _

theorem leaves_readEscape (t : Text) : Leaves Prod.snd t (readEscape t) := by
  unfold readEscape
  split
  · exact Leaves.malformed _ _
  · rename_i c rest
    have inside : rest <:+ c :: rest := List.suffix_cons c rest
    split
    · exact (leaves_readHex 4 rest).mono inside
    · split
      · exact (leaves_readHex 8 rest).mono inside
      · split
        · exact inside
        · exact Leaves.malformed _ _

theorem suffix_of_skipContinuation? (read : skipContinuation? t = some rest) : rest <:+ t := by
  have blank := skipSpace_suffix t
  unfold skipContinuation? at read
  split at read
  · rename_i c further skipped
    rw [skipped] at blank
    split at read
    · cases read
      exact ((List.dropWhile_suffix _).trans (List.suffix_cons c further)).trans blank
    · cases read
  · cases read

theorem leaves_readBasic (fuel : Nat) (t : Text) : Leaves Prod.snd t (readBasic fuel t) := by
  induction fuel generalizing t with
  | zero => exact Leaves.malformed _ _
  | succ fuel ih =>
    cases t with
    | nil => exact Leaves.malformed _ _
    | cons c rest =>
      have inside : rest <:+ c :: rest := List.suffix_cons c rest
      rw [readBasic]
      split
      · exact inside
      · split
        · refine ((leaves_readEscape rest).mono inside).bind ?_
          rintro ⟨meant, after⟩ escaped
          exact ((ih after).mono escaped).bind fun _ suffix => suffix
        · split
          · exact Leaves.malformed _ _
          · exact ((ih rest).mono inside).bind fun _ suffix => suffix

theorem leaves_readBasicLines (fuel : Nat) (t : Text) : Leaves Prod.snd t (readBasicLines fuel t) := by
  induction fuel generalizing t with
  | zero => exact Leaves.malformed _ _
  | succ fuel ih =>
    cases t with
    | nil => exact Leaves.malformed _ _
    | cons c rest =>
      have inside : rest <:+ c :: rest := List.suffix_cons c rest
      rw [readBasicLines]
      split
      · exact (List.drop_suffix 2 rest).trans inside
      · split
        · split
          · rename_i after continued
            exact (ih after).mono ((suffix_of_skipContinuation? continued).trans inside)
          · refine ((leaves_readEscape rest).mono inside).bind ?_
            rintro ⟨meant, after⟩ escaped
            exact ((ih after).mono escaped).bind fun _ suffix => suffix
        · split
          · exact Leaves.malformed _ _
          · exact ((ih rest).mono inside).bind fun _ suffix => suffix

theorem leaves_readLiteral (t : Text) : Leaves Prod.snd t (readLiteral t) := by
  unfold readLiteral
  dsimp only
  split
  · exact List.drop_suffix _ _
  · exact Leaves.malformed _ _

theorem leaves_readLiteralLines (t : Text) : Leaves Prod.snd t (readLiteralLines t) := by
  induction t with
  | nil => exact Leaves.malformed _ _
  | cons c rest ih =>
    have inside : rest <:+ c :: rest := List.suffix_cons c rest
    rw [readLiteralLines]
    split
    · exact (List.drop_suffix 2 rest).trans inside
    · split
      · exact Leaves.malformed _ _
      · exact (ih.mono inside).bind fun _ suffix => suffix

theorem dropFirstLine_suffix (t : Text) : dropFirstLine t <:+ t := by
  unfold dropFirstLine
  split
  · exact List.drop_suffix 1 t
  · exact List.suffix_refl t

theorem Leaves.withExtraQuotes {read : Except Fault (Reading Text)} (leaves : Leaves Prod.snd t read)
    (quote : CodePoint) : Leaves Prod.snd t (read.map (Toml.withExtraQuotes quote)) := by
  cases read with
  | error fault => exact leaves
  | ok read => exact List.IsSuffix.trans (List.drop_suffix _ _) leaves

theorem leaves_readString? {read : Except Fault (Reading Text)} (found : readString? t = some read) :
    Leaves Prod.snd t read := by
  have opened : dropFirstLine (t.drop 3) <:+ t := (dropFirstLine_suffix _).trans (List.drop_suffix 3 t)
  unfold readString? at found
  split at found
  · cases found
    exact ((leaves_readBasicLines _ _).mono opened).withExtraQuotes _
  · split at found
    · cases found
      exact ((leaves_readLiteralLines _).mono opened).withExtraQuotes _
    · split at found
      · rename_i c rest _ _
        have inside : rest <:+ c :: rest := List.suffix_cons c rest
        split at found
        · cases found
          exact (leaves_readBasic _ rest).mono inside
        · split at found
          · cases found
            exact (leaves_readLiteral rest).mono inside
          · cases found
      · cases found

theorem leaves_readKeyPart (t : Text) : Leaves Prod.snd t (readKeyPart t) := by
  unfold readKeyPart
  split
  · exact Leaves.malformed _ _
  · rename_i c rest
    have inside : rest <:+ c :: rest := List.suffix_cons c rest
    split
    · exact List.dropWhile_suffix _
    · split
      · exact (leaves_readLiteral rest).mono inside
      · split
        · exact (leaves_readBasic _ rest).mono inside
        · exact Leaves.malformed _ _

theorem leaves_readKey (fuel : Nat) (t : Text) : Leaves Prod.snd t (readKey fuel t) := by
  induction fuel generalizing t with
  | zero => exact Leaves.malformed _ _
  | succ fuel ih =>
    rw [readKey]
    refine (leaves_readKeyPart t).bind ?_
    rintro ⟨part, after⟩ suffix
    have blank : skipSpace after <:+ t := (skipSpace_suffix after).trans suffix
    dsimp only
    split
    · exact List.nil_suffix
    · rename_i c rest skipped
      rw [skipped] at blank
      have inside : skipSpace rest <:+ t :=
        ((skipSpace_suffix rest).trans (List.suffix_cons c rest)).trans blank
      split
      · exact ((ih _).mono inside).bind fun _ suffix => suffix
      · exact blank

/-! Values and documents. -/

theorem leaves_skipEquals (t : Text) : Leaves id t (skipEquals t) := by
  unfold skipEquals
  split
  · exact Leaves.malformed _ _
  · rename_i c rest
    split
    · exact (skipSpace_suffix rest).trans (List.suffix_cons c rest)
    · exact Leaves.malformed _ _

theorem leaves_orMalformed {read? : Option α} : Leaves (fun _ => []) t (orMalformed read?) := by
  cases read? with
  | none => exact Leaves.malformed _ _
  | some a => exact List.nil_suffix

theorem suffix_of_readWord? {v : Value} (read : readWord? t = some (v, rest)) : rest <:+ t := by
  unfold readWord? at read
  split at read
  · cases read
    exact List.drop_suffix _ _
  · split at read
    · cases read
      exact List.drop_suffix _ _
    · cases read

theorem leaves_readScalar (t : Text) : Leaves Prod.snd t (readScalar t) := by
  unfold readScalar
  split
  · rename_i read quoted
    exact (leaves_readString? quoted).map fun _ => rfl
  · split
    · rename_i read worded
      exact suffix_of_readWord? worded
    · cases moment : readMoment? t with
      | some read => exact leaves_readMoment? moment
      | none =>
        cases number : readNumber? t with
        | some read => exact leaves_readNumber? number
        | none => exact Leaves.malformed _ _

/-- The readers of values leave ends of their texts while a number bounds them. -/
structure ValuesLeave (fuel : Nat) : Prop where
  value : ∀ t, Leaves Prod.snd t (readValue fuel t)
  items : ∀ items t, Leaves Prod.snd t (readItems fuel items t)
  entries : ∀ table t, Leaves Prod.snd t (readEntries fuel table t)

variable {fuel : Nat}

theorem leaves_readValue_succ (inner : ValuesLeave fuel) (t : Text) :
    Leaves Prod.snd t (readValue (fuel + 1) t) := by
  cases t with
  | nil => exact Leaves.malformed _ _
  | cons c rest =>
    have inside : rest <:+ c :: rest := List.suffix_cons c rest
    rw [readValue]
    split
    · exact ((inner.items [] rest).mono inside).map fun _ => rfl
    · split
      · have blank : skipSpace rest <:+ c :: rest := (skipSpace_suffix rest).trans inside
        split
        · rename_i d after skipped
          rw [skipped] at blank
          split
          · exact (List.suffix_cons d after).trans blank
          · exact ((inner.entries {} (d :: after)).mono blank).map fun _ => rfl
        · exact Leaves.malformed _ _
      · exact leaves_readScalar (c :: rest)

theorem leaves_readItems_succ (inner : ValuesLeave fuel) (items : List Value) (t : Text) :
    Leaves Prod.snd t (readItems (fuel + 1) items t) := by
  rw [readItems]
  refine (leaves_skipLines t.length t).bind fun start skipped => ?_
  split
  · exact (List.drop_suffix 1 start).trans skipped
  · refine ((inner.value start).mono skipped).bind ?_
    rintro ⟨item, after⟩ read
    refine ((leaves_skipLines after.length after).mono read).bind fun next suffix => ?_
    split
    · rename_i c rest
      have inside : rest <:+ t := (List.suffix_cons c rest).trans suffix
      split
      · exact inside
      · split
        · exact (inner.items _ rest).mono inside
        · exact Leaves.malformed _ _
    · exact Leaves.malformed _ _

theorem leaves_readEntries_succ (inner : ValuesLeave fuel) (table : InlineTable) (t : Text) :
    Leaves Prod.snd t (readEntries (fuel + 1) table t) := by
  rw [readEntries]
  refine (leaves_readKey _ t).bind ?_
  rintro ⟨key, after⟩ named
  refine ((leaves_skipEquals after).mono named).bind fun start equals => ?_
  refine ((inner.value start).mono equals).bind ?_
  rintro ⟨v, rest⟩ read
  have blank : skipSpace rest <:+ t := (skipSpace_suffix rest).trans read
  refine leaves_orMalformed.bind fun table _ => ?_
  split
  · rename_i c rest skipped
    rw [skipped] at blank
    have inside : rest <:+ t := (List.suffix_cons c rest).trans blank
    split
    · exact inside
    · split
      · exact (inner.entries table _).mono ((skipSpace_suffix rest).trans inside)
      · exact Leaves.malformed _ _
  · exact Leaves.malformed _ _

theorem valuesLeave (fuel : Nat) : ValuesLeave fuel := by
  induction fuel with
  | zero => constructor <;> intros <;> exact Leaves.malformed _ _
  | succ fuel ih =>
    exact ⟨leaves_readValue_succ ih, leaves_readItems_succ ih, leaves_readEntries_succ ih⟩

theorem leaves_readHeader (d : Document) (t : Text) : Leaves Prod.snd t (readHeader d t) := by
  unfold readHeader
  dsimp only
  generalize (if ("[[" : Text).isPrefixOf t then 2 else 1) = count
  generalize (if ("[[" : Text).isPrefixOf t then ("]]" : Text) else "]") = closing
  have opened : skipSpace (t.drop count) <:+ t := (skipSpace_suffix _).trans (List.drop_suffix count t)
  refine ((leaves_readKey _ _).mono opened).bind ?_
  rintro ⟨path, rest⟩ named
  refine leaves_orMalformed.bind fun document _ => ?_
  split
  · exact (List.drop_suffix _ rest).trans named
  · exact Leaves.malformed _ _

theorem leaves_readPair (d : Document) (t : Text) : Leaves Prod.snd t (readPair d t) := by
  unfold readPair
  refine (leaves_readKey _ t).bind ?_
  rintro ⟨key, after⟩ named
  refine ((leaves_skipEquals after).mono named).bind fun start equals => ?_
  refine (((valuesLeave _).value start).mono equals).bind ?_
  rintro ⟨v, rest⟩ read
  exact leaves_orMalformed.bind fun document _ => read

theorem leaves_readStatement (d : Document) (t : Text) : Leaves Prod.snd t (readStatement d t) := by
  unfold readStatement
  split
  · exact List.suffix_refl _
  · split
    · exact List.suffix_refl _
    · split
      · exact leaves_readHeader d _
      · exact leaves_readPair d _

theorem leaves_readLines (fuel : Nat) (d : Document) (t : Text) :
    Leaves (fun _ => []) t (readLines fuel d t) := by
  induction fuel generalizing d t with
  | zero => exact Leaves.malformed _ _
  | succ fuel ih =>
    rw [readLines]
    refine ((leaves_readStatement d _).mono (skipSpace_suffix t)).bind ?_
    rintro ⟨document, rest⟩ stated
    have blank : skipSpace rest <:+ t := (skipSpace_suffix rest).trans stated
    refine ((leaves_skipComment _).mono blank).bind fun after commented => ?_
    split
    · exact List.nil_suffix
    · rename_i c further
      split
      · exact (ih document further).mono ((List.suffix_cons c further).trans commented)
      · exact Leaves.malformed _ _

/-! Line ends are made the same before the reading, which neither makes nor breaks runs of digits. -/

theorem prefix_of_unifyLineEnds {run : Text} (online : ('\n' : CodePoint) ∉ run)
    (inside : run <+: unifyLineEnds t) : run <+: t := by
  fun_induction unifyLineEnds t generalizing run with
  | case1 c d rest ends ih =>
    cases run with
    | nil => exact List.nil_prefix
    | cons first run =>
      have same : first = d := (List.cons_prefix_cons.mp inside).1
      exact absurd (by simp [same, ends.2]) online
  | case2 c d rest _ ih =>
    cases run with
    | nil => exact List.nil_prefix
    | cons first run =>
      obtain ⟨same, further⟩ := List.cons_prefix_cons.mp inside
      exact List.cons_prefix_cons.mpr ⟨same, ih (fun member => online (.tail _ member)) further⟩
  | case3 => exact inside

theorem infix_of_unifyLineEnds {run : Text} (online : ('\n' : CodePoint) ∉ run)
    (inside : run <:+: unifyLineEnds t) : run <:+: t := by
  fun_induction unifyLineEnds t with
  | case1 c d rest ends ih =>
    rcases List.infix_cons_iff.mp inside with start | inside
    · cases run with
      | nil => exact List.nil_infix
      | cons first run =>
        have same : first = d := (List.cons_prefix_cons.mp start).1
        exact absurd (by simp [same, ends.2]) online
    · exact List.infix_cons (List.infix_cons (ih inside))
  | case2 c d rest other ih =>
    rcases List.infix_cons_iff.mp inside with start | inside
    · refine (prefix_of_unifyLineEnds online ?_).isInfix
      rw [unifyLineEnds, if_neg other]
      exact start
    · exact List.infix_cons (ih inside)
  | case3 => exact inside

/-- A document with an oversized integer holds a long run of digits. -/
theorem hasLongRun_of_read (oversized : read t = .error .oversizedInteger) : HasLongRun t := by
  have leaves := leaves_readLines ((unifyLineEnds t).length + 1) {} (unifyLineEnds t)
  have failed : readLines ((unifyLineEnds t).length + 1) {} (unifyLineEnds t) =
      .error .oversizedInteger := by
    unfold read at oversized
    dsimp only at oversized
    cases done : readLines ((unifyLineEnds t).length + 1) {} (unifyLineEnds t) with
    | ok document =>
      rw [done] at oversized
      cases oversized
    | error fault =>
      rw [done] at oversized
      exact congrArg Except.error (Except.error.inj oversized)
  rw [failed] at leaves
  obtain ⟨run, inside, members, many⟩ := leaves rfl
  refine ⟨run, infix_of_unifyLineEnds ?_ inside, members, many⟩
  intro member
  rcases members _ member with digit | underscore
  · exact absurd digit (by decide)
  · exact absurd underscore (by decide)

end ImportDepth.Toml
