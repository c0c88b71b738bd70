/-! Computations that may fail. What is known about a result or a fault of a composed computation is
traced to its parts. -/
namespace ImportDepth

variable {ε ε' α β : Type}

/-- A computation goes well if its first part does and the rest does after it. -/
theorem bind_ok_iff {first : Except ε α} {onward : α → Except ε β} {result : β} :
    first >>= onward = .ok result ↔ ∃ between, first = .ok between ∧ onward between = .ok result := by
  cases first with
  | error fault => simp [bind, Except.bind]
  | ok between => simp [bind, Except.bind]

@[simp] theorem mapError_ok (f : ε → ε') (a : α) : (Except.ok a).mapError f = .ok a := rfl

@[simp] theorem mapError_error (f : ε → ε') (fault : ε) :
    (Except.error fault : Except ε α).mapError f = .error (f fault) := rfl

theorem mapError_ok_iff {first : Except ε α} {f : ε → ε'} {result : α} :
    first.mapError f = .ok result ↔ first = .ok result := by
  cases first <;> simp

theorem map_ok_iff {first : Except ε α} {f : α → β} {result : β} :
    first.map f = .ok result ↔ ∃ between, first = .ok between ∧ f between = result := by
  cases first <;> simp [Except.map]

theorem map_error_iff {first : Except ε α} {f : α → β} {fault : ε} :
    first.map f = .error fault ↔ first = .error fault := by
  cases first <;> simp [Except.map]

theorem bind_error_iff {first : Except ε α} {onward : α → Except ε β} {fault : ε} :
    first >>= onward = .error fault ↔
      first = .error fault ∨ ∃ between, first = .ok between ∧ onward between = .error fault := by
  cases first with
  | error other => simp [bind, Except.bind]
  | ok between => simp [bind, Except.bind]

/-- If a computation over a list goes well, so does its part for each member. -/
theorem mem_of_mapM_ok {f : α → Except ε β} {list : List α} {results : List β} {a : α}
    (done : list.mapM f = .ok results) (member : a ∈ list) : ∃ b ∈ results, f a = .ok b := by
  induction list generalizing results with
  | nil => cases member
  | cons first rest ih =>
    rw [List.mapM_cons] at done
    obtain ⟨b, head, done⟩ := bind_ok_iff.mp done
    obtain ⟨others, tail, same⟩ := bind_ok_iff.mp done
    cases same
    rcases List.mem_cons.mp member with rfl | member
    · exact ⟨b, by simp, head⟩
    · obtain ⟨c, inside, found⟩ := ih tail member
      exact ⟨c, .tail _ inside, found⟩

/-- What a computation over a list results in comes from its members. -/
theorem exists_of_mem_mapM_ok {f : α → Except ε β} {list : List α} {results : List β} {b : β}
    (done : list.mapM f = .ok results) (member : b ∈ results) : ∃ a ∈ list, f a = .ok b := by
  induction list generalizing results with
  | nil =>
    cases done
    cases member
  | cons first rest ih =>
    rw [List.mapM_cons] at done
    obtain ⟨c, head, done⟩ := bind_ok_iff.mp done
    obtain ⟨others, tail, same⟩ := bind_ok_iff.mp done
    cases same
    rcases List.mem_cons.mp member with rfl | member
    · exact ⟨first, by simp, head⟩
    · obtain ⟨a, inside, found⟩ := ih tail member
      exact ⟨a, .tail _ inside, found⟩

theorem mapM_congr {f g : α → Except ε β} {list : List α} (agree : ∀ a ∈ list, f a = g a) :
    list.mapM f = list.mapM g := by
  induction list with
  | nil => rfl
  | cons first rest ih =>
    rw [List.mapM_cons, List.mapM_cons, agree first (by simp), ih fun a member => agree a (.tail _ member)]

theorem mapM_ok {f : α → Except ε β} {g : α → β} {list : List α} (each : ∀ a ∈ list, f a = .ok (g a)) :
    list.mapM f = .ok (list.map g) := by
  induction list with
  | nil => rfl
  | cons first rest ih =>
    rw [List.mapM_cons, each first (by simp), ih fun a member => each a (.tail _ member)]
    rfl

theorem filterMapM_ok {f : α → Except ε (Option β)} {g : α → Option β} {list : List α}
    (each : ∀ a ∈ list, f a = .ok (g a)) : list.filterMapM f = .ok (list.filterMap g) := by
  induction list with
  | nil => rfl
  | cons first rest ih =>
    rw [List.filterMapM_cons, each first (by simp), ih fun a member => each a (.tail _ member)]
    cases found : g first <;> simp [found, bind, Except.bind, pure, Except.pure]

/-- Where there is one fault only, a computation over a list fails if its part for some member does. -/
theorem mapM_error_iff [Subsingleton ε] {f : α → Except ε β} {list : List α} {fault : ε} :
    list.mapM f = .error fault ↔ ∃ a ∈ list, f a = .error fault := by
  induction list with
  | nil => simp [pure, Except.pure]
  | cons first rest ih =>
    simp only [List.mapM_cons, List.mem_cons, exists_eq_or_imp, ← ih]
    cases f first with
    | error other => simp [bind, Except.bind, Subsingleton.elim other fault]
    | ok b => cases rest.mapM f <;> simp [bind, Except.bind, pure, Except.pure]

theorem filterMapM_error_iff [Subsingleton ε] {f : α → Except ε (Option β)} {list : List α} {fault : ε} :
    list.filterMapM f = .error fault ↔ ∃ a ∈ list, f a = .error fault := by
  induction list with
  | nil => simp [pure, Except.pure]
  | cons first rest ih =>
    simp only [List.filterMapM_cons, List.mem_cons, exists_eq_or_imp, ← ih]
    cases f first with
    | error other => simp [bind, Except.bind, Subsingleton.elim other fault]
    | ok result =>
      cases result with
      | none => simp [bind, Except.bind]
      | some b => cases rest.filterMapM f <;> simp [bind, Except.bind, pure, Except.pure]

end ImportDepth
