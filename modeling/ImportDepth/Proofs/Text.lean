import ImportDepth.Text.Basic

/-! Laws of texts: the order by code points, what splitting gives back after joining, where the last separator
parts a text, texts as keys of a table, and texts without surrogates. -/
namespace ImportDepth.Text

variable {s t part : Text} {separator : CodePoint} {parts : List Text}

/-- Strict order by code points. -/
def Precedes (s t : Text) : Prop := List.Lex (fun c d => c.val < d.val) s t

theorem le_iff : le s t = true ↔ s = t ∨ s.Precedes t := by
  induction s generalizing t with
  | nil => cases t <;> simp [le, Precedes]
  | cons c s ih =>
    cases t with
    | nil => simp [le, Precedes]
    | cons d t =>
      simp only [le, Bool.or_eq_true, decide_eq_true_eq, Bool.and_eq_true, ih, Precedes,
        List.cons_lex_cons_iff, List.cons.injEq, Fin.ext_iff, and_or_left]
      exact or_left_comm

namespace Precedes

theorem irrefl (t : Text) : ¬ t.Precedes t := List.lex_irrefl (fun c => Nat.lt_irrefl c.val) t

theorem asymm (first : s.Precedes t) : ¬ t.Precedes s := List.lex_asymm Nat.lt_asymm first

end Precedes

theorem le_trans {u : Text} (first : le s t = true) (second : le t u = true) : le s u = true := by
  rw [le_iff] at *
  rcases first with rfl | first
  · exact second
  · rcases second with rfl | second
    · exact .inr first
    · exact .inr (List.lex_trans Nat.lt_trans first second)

theorem le_total (s t : Text) : le s t = true ∨ le t s = true := by
  induction s generalizing t with
  | nil => exact .inl rfl
  | cons c s ih =>
    cases t with
    | nil => exact .inr rfl
    | cons d t =>
      simp only [le, Bool.or_eq_true, decide_eq_true_eq, Bool.and_eq_true]
      rcases Nat.lt_trichotomy c.val d.val with below | same | above
      · exact .inl (.inl below)
      · exact (ih t).imp (fun further => .inr ⟨same, further⟩) (fun further => .inr ⟨same.symm, further⟩)
      · exact .inr (.inl above)

theorem splitOn_ne_nil (separator : CodePoint) (t : Text) : splitOn separator t ≠ [] := by
  cases t with
  | nil => simp [splitOn]
  | cons c t =>
    rw [splitOn]
    split
    · simp
    · split <;> simp

/-- Every separator begins a new part. -/
theorem splitOn_append (s t : Text) :
    splitOn separator (s ++ separator :: t) = splitOn separator s ++ splitOn separator t := by
  induction s with
  | nil => simp [splitOn]
  | cons c s ih =>
    obtain ⟨part, parts, first⟩ := List.exists_cons_of_ne_nil (splitOn_ne_nil separator s)
    rw [List.cons_append, splitOn, splitOn, ih, first]
    split <;> rfl

theorem splitOn_of_not_mem (free : separator ∉ part) :
    splitOn separator part = [part] := by
  induction part with
  | nil => rfl
  | cons c part ih =>
    simp only [List.mem_cons, not_or] at free
    rw [splitOn, if_neg (Ne.symm free.1), ih free.2]

/-- A change of code points that neither makes nor removes a separator changes each part by itself. -/
theorem splitOn_map {f : CodePoint → CodePoint} (kept : ∀ c, f c = separator ↔ c = separator) (t : Text) :
    splitOn separator (t.map f) = (splitOn separator t).map (List.map f) := by
  induction t with
  | nil => rfl
  | cons c t ih =>
    obtain ⟨part, parts, first⟩ := List.exists_cons_of_ne_nil (splitOn_ne_nil separator t)
    rw [List.map_cons, splitOn, splitOn, ih, first]
    simp only [kept]
    split <;> rfl

theorem join_cons_cons (s part next : Text) (rest : List Text) :
    join s (part :: next :: rest) = part ++ (s ++ join s (next :: rest)) := by
  simp [join, List.intercalate]

/-- Parts that do not hold the separator can be read back after they were joined. -/
theorem splitOn_join (nonempty : parts ≠ [])
    (free : ∀ part ∈ parts, separator ∉ part) :
    splitOn separator (join [separator] parts) = parts := by
  induction parts with
  | nil => contradiction
  | cons part rest ih =>
    cases rest with
    | nil => simpa [join, List.intercalate] using splitOn_of_not_mem (free part (by simp))
    | cons next rest =>
      rw [join_cons_cons, List.singleton_append, splitOn_append, splitOn_of_not_mem (free part (by simp)),
        ih (by simp) fun p member => free p (.tail _ member)]
      rfl

theorem exists_last_separator (parted : separator ∈ t) :
    ∃ front back, t = front ++ separator :: back ∧ separator ∉ back := by
  obtain ⟨behind, before, reversed, last⟩ := List.eq_append_cons_of_mem (List.mem_reverse.mpr parted)
  refine ⟨before.reverse, behind.reverse, ?_, by simpa using last⟩
  rw [← List.reverse_reverse t, reversed]
  simp

/-- The last separator parts a text in one way only. -/
theorem eq_of_last_separator {front front' back back' : Text} (last : separator ∉ back)
    (last' : separator ∉ back') (same : front ++ separator :: back = front' ++ separator :: back') :
    front = front' ∧ back = back' := by
  rcases List.append_eq_append_iff.mp same with ⟨between, longer, rest⟩ | ⟨between, longer, rest⟩
  all_goals
    cases between with
    | nil => simp_all
    | cons c between =>
      obtain ⟨_, rfl⟩ := List.cons.inj rest
      simp at last last'

/-- In a table of distinct keys an entry is found wherever it stands. -/
theorem lookup_eq_some_iff_mem {α : Type} {entries : List (Text × α)} {key : Text} {v : α}
    (distinct : (entries.map Prod.fst).Nodup) : entries.lookup key = some v ↔ (key, v) ∈ entries := by
  constructor
  · intro looked
    obtain ⟨front, back, rfl, _⟩ := List.lookup_eq_some_iff.mp looked
    simp
  · intro member
    obtain ⟨front, back, rfl⟩ := List.append_of_mem member
    refine List.lookup_eq_some_iff.mpr ⟨front, back, rfl, ?_⟩
    intro other before
    rw [List.map_append, List.map_cons, List.nodup_append] at distinct
    have different := distinct.2.2 other.1 (List.mem_map_of_mem before) key List.mem_cons_self
    simpa using different.symm

/-- Text without surrogates, which every encoding can hold. -/
def IsScalar (t : Text) : Prop := ∀ c ∈ t, ¬ c.IsSurrogate

instance (t : Text) : Decidable t.IsScalar := List.decidableBAll (fun c : CodePoint => ¬ c.IsSurrogate) t

/-- Characters are no surrogates. -/
theorem not_isSurrogate_ofChar (c : Char) : ¬ (CodePoint.ofChar c).IsSurrogate := by
  have valid := c.valid
  simp only [UInt32.isValidChar, Nat.isValidChar] at valid
  simp only [CodePoint.ofChar, CodePoint.IsSurrogate, Char.toNat]
  omega

namespace IsScalar

theorem map_ofChar (characters : List Char) : IsScalar (characters.map CodePoint.ofChar) := by
  intro c member
  obtain ⟨character, _, rfl⟩ := List.mem_map.mp member
  exact not_isSurrogate_ofChar character

theorem ofString (string : String) : (Text.ofString string).IsScalar := map_ofChar string.toList

theorem ofInt (n : Int) : (Text.ofInt n).IsScalar := by
  cases n with
  | ofNat n => exact map_ofChar (Nat.toDigits 10 n)
  | negSucc n => exact map_ofChar ('-' :: Nat.toDigits 10 (n + 1))

theorem append_iff : (s ++ t).IsScalar ↔ s.IsScalar ∧ t.IsScalar := List.forall_mem_append

theorem cons_iff {c : CodePoint} : IsScalar (c :: t) ↔ ¬ c.IsSurrogate ∧ t.IsScalar := List.forall_mem_cons

theorem mono (scalar : t.IsScalar) (part : s ⊆ t) : s.IsScalar := fun c member => scalar c (part member)

theorem join_iff (between : s.IsScalar) :
    (join s parts).IsScalar ↔ ∀ part ∈ parts, part.IsScalar := by
  induction parts with
  | nil => exact iff_of_true (fun c member => by cases member) (by simp)
  | cons part rest ih =>
    cases rest with
    | nil => simp [join, List.intercalate]
    | cons next rest =>
      rw [join_cons_cons, append_iff, append_iff, ih, List.forall_mem_cons (a := part)]
      exact and_congr_right fun _ => and_iff_right between

end IsScalar

end ImportDepth.Text
