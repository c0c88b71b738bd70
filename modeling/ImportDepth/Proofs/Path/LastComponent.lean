import ImportDepth.Proofs.Path

/-! The last component of a written path, and the suffix of its name. The path is a directory and a slash, or
nothing, before the name, and behind it only slashes and single dots, which lead nowhere; splitting it at its
slashes finds just this name. The name has a suffix if a dot stands inside of it: then the last dot begins it. -/
namespace ImportDepth.Path

/-- Slashes, and single dots behind slashes. -/
inductive Idle : Text → Prop where
  | nil : Idle []
  | slash {rest : Text} (idle : Idle rest) : Idle (CodePoint.ofChar '/' :: rest)
  | dot {rest : Text} (idle : Idle rest) : Idle (CodePoint.ofChar '/' :: CodePoint.ofChar '.' :: rest)

/-- A path whose last component that is neither empty nor a single dot is this name. -/
structure EndsIn (written name : Text) : Prop where
  proper : name ≠ [] ∧ name ≠ ("." : Text)
  whole : CodePoint.ofChar '/' ∉ name
  placed : ∃ front idle : Text, written = front ++ name ++ idle ∧
    (front = [] ∨ front.getLast? = some (CodePoint.ofChar '/')) ∧ Idle idle

variable {written name part tail back : Text} {c : CodePoint}

/-! Components. -/

theorem components_append_slash (front back : Text) :
    components (front ++ CodePoint.ofChar '/' :: back) = components front ++ components back := by
  rw [components, Text.splitOn_append, List.filter_append]
  rfl

theorem components_of_no_slash (free : CodePoint.ofChar '/' ∉ part) :
    components part = if part ≠ [] ∧ part ≠ ("." : Text) then [part] else [] := by
  rw [components, Text.splitOn_of_not_mem free]
  simp only [List.filter_cons, List.filter_nil, Bool.and_eq_true, decide_eq_true_eq]

theorem components_append_idle (idle : Idle back) (written : Text) :
    components (written ++ back) = components written := by
  induction idle generalizing written with
  | nil => rw [List.append_nil]
  | @slash rest _ ih =>
    have nowhere : components rest = [] := ih []
    rw [components_append_slash, nowhere, List.append_nil]
  | @dot rest _ ih =>
    have nowhere : components (CodePoint.ofChar '.' :: rest) = [] := ih [CodePoint.ofChar '.']
    rw [components_append_slash, nowhere, List.append_nil]

theorem idle_replicate (n : Nat) : Idle (List.replicate n (CodePoint.ofChar '/')) := by
  induction n with
  | zero => exact .nil
  | succ n ih => exact .slash ih

/-- Several slashes part no more than one. -/
theorem components_append_slashes (front back : Text) (n : Nat) :
    components (front ++ List.replicate (n + 1) (CodePoint.ofChar '/') ++ back) =
      components front ++ components back := by
  have last : front ++ List.replicate (n + 1) (CodePoint.ofChar '/') ++ back =
      (front ++ List.replicate n (CodePoint.ofChar '/')) ++ CodePoint.ofChar '/' :: back := by
    simp [List.replicate_succ']
  rw [last, components_append_slash, components_append_idle (idle_replicate n)]

/-- What is no component leads nowhere. -/
theorem idle_of_improper (improper : ¬ (part ≠ [] ∧ part ≠ ("." : Text))) :
    Idle (CodePoint.ofChar '/' :: part) := by
  by_cases empty : part = []
  · rw [empty]
    exact .slash .nil
  · have single : part = ("." : Text) := Decidable.not_not.mp fun other => improper ⟨empty, other⟩
    rw [single]
    exact .dot .nil

theorem Idle.append {front : Text} (first : Idle front) (second : Idle back) : Idle (front ++ back) := by
  induction first with
  | nil => exact second
  | slash _ ih => exact .slash ih
  | dot _ ih => exact .dot ih

theorem EndsIn.getLast?_eq (ends : EndsIn written name) : (components written).getLast? = some name := by
  obtain ⟨front, back, rfl, start, idle⟩ := ends.placed
  have alone : components name = [name] := by
    rw [components_of_no_slash ends.whole, if_pos ends.proper]
  rw [components_append_idle idle]
  rcases start with rfl | slash
  · rw [List.nil_append, alone]
    rfl
  · obtain ⟨directory, rfl⟩ := List.getLast?_eq_some_iff.mp slash
    rw [List.append_assoc, List.singleton_append, components_append_slash, alone, List.getLast?_concat]

theorem endsIn_of_getLast? (last : (components written).getLast? = some name) : EndsIn written name := by
  -- What the last slash parts off is the name, or leads nowhere, and then the name ends what is before it.
  induction length : written.length using Nat.strongRecOn generalizing written with
  | _ _ ih =>
    by_cases parted : CodePoint.ofChar '/' ∈ written
    · obtain ⟨front, back, rfl, free⟩ := Text.exists_last_separator parted
      rw [components_append_slash, components_of_no_slash free] at last
      split at last
      · rename_i proper
        rw [List.getLast?_concat] at last
        cases last
        exact ⟨proper, free, front ++ [CodePoint.ofChar '/'], [], by simp, by simp, .nil⟩
      · rename_i improper
        rw [List.append_nil] at last
        obtain ⟨proper, whole, before, idle, rfl, start, rests⟩ :=
          ih _ (by rw [← length, List.length_append, List.length_cons]; omega) last rfl
        exact ⟨proper, whole, before, idle ++ CodePoint.ofChar '/' :: back, by simp, start,
          rests.append (idle_of_improper improper)⟩
    · rw [components_of_no_slash parted] at last
      split at last
      · rename_i proper
        cases last
        exact ⟨proper, parted, [], [], by simp, .inl rfl, .nil⟩
      · cases last

/-- The last component that splitting leaves is the name that the path ends in. -/
theorem getLast?_components_iff : (components written).getLast? = some name ↔ EndsIn written name :=
  ⟨endsIn_of_getLast?, EndsIn.getLast?_eq⟩

instance (written name : Text) : Decidable (EndsIn written name) :=
  decidable_of_iff _ getLast?_components_iff

theorem components_ne_nil_iff : components written ≠ [] ↔ ∃ name, EndsIn written name := by
  rw [← List.getLast?_isSome, Option.isSome_iff_exists]
  simp only [getLast?_components_iff]

/-! Suffixes. -/

theorem takeWhile_of_no_dot (free : CodePoint.ofChar '.' ∉ part) (rest : Text) :
    (part.reverse ++ rest).takeWhile (fun c => decide (c ≠ CodePoint.ofChar '.')) =
      part.reverse ++ rest.takeWhile fun c => decide (c ≠ CodePoint.ofChar '.') := by
  apply List.takeWhile_append_of_pos
  intro c member
  exact decide_eq_true fun same => free (same ▸ List.mem_reverse.mp member)

theorem nameSuffix_of_no_dot (free : CodePoint.ofChar '.' ∉ name) : nameSuffix name = [] := by
  have taken := takeWhile_of_no_dot free []
  rw [List.append_nil, List.takeWhile_nil, List.append_nil] at taken
  rw [nameSuffix, taken, List.reverse_reverse, if_neg (by omega)]

theorem nameSuffix_of_last_dot (stem : Text) (last : CodePoint.ofChar '.' ∉ tail) :
    nameSuffix (stem ++ CodePoint.ofChar '.' :: tail) =
      if stem ≠ [] ∧ tail ≠ [] then CodePoint.ofChar '.' :: tail else [] := by
  have reversed : (stem ++ CodePoint.ofChar '.' :: tail).reverse =
      tail.reverse ++ CodePoint.ofChar '.' :: stem.reverse := by simp
  have inside : tail.length + 1 < stem.length + (tail.length + 1) ↔ stem ≠ [] := by
    rw [← List.length_pos_iff]
    omega
  rw [nameSuffix, reversed, takeWhile_of_no_dot last, List.takeWhile_cons_of_neg (by simp), List.append_nil,
    List.reverse_reverse, List.length_append, List.length_cons]
  simp only [inside, and_comm]

/-- A name has a suffix if a dot stands inside of it, and then the last dot begins it. -/
theorem nameSuffix_eq_cons_iff :
    nameSuffix name = c :: tail ↔ c = '.' ∧ tail ≠ [] ∧ CodePoint.ofChar '.' ∉ tail ∧
      ∃ stem, stem ≠ [] ∧ name = stem ++ CodePoint.ofChar '.' :: tail := by
  constructor
  · intro same
    by_cases dotted : CodePoint.ofChar '.' ∈ name
    · obtain ⟨stem, behind, rfl, last⟩ := Text.exists_last_separator dotted
      rw [nameSuffix_of_last_dot stem last] at same
      split at same
      · rename_i proper
        cases same
        exact ⟨rfl, proper.2, last, stem, proper.1, rfl⟩
      · cases same
    · rw [nameSuffix_of_no_dot dotted] at same
      cases same
  · rintro ⟨rfl, nonempty, last, stem, proper, rfl⟩
    rw [nameSuffix_of_last_dot stem last, if_pos ⟨proper, nonempty⟩]

/-- A name without a dot inside of it: there is none, or only one, which begins it, or the last one ends it. -/
def Unsuffixed (name : Text) : Prop :=
  CodePoint.ofChar '.' ∉ name ∨
    (∃ rest, name = CodePoint.ofChar '.' :: rest ∧ CodePoint.ofChar '.' ∉ rest) ∨
    ∃ rest, name = rest ++ [CodePoint.ofChar '.']

theorem nameSuffix_of_unsuffixed (bare : Unsuffixed name) : nameSuffix name = [] := by
  rcases bare with free | ⟨rest, rfl, free⟩ | ⟨rest, rfl⟩
  · exact nameSuffix_of_no_dot free
  · exact (nameSuffix_of_last_dot [] free).trans (if_neg (by simp))
  · exact (nameSuffix_of_last_dot rest (by simp)).trans (if_neg (by simp))

end ImportDepth.Path
