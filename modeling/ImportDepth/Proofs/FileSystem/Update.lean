import ImportDepth.FileSystem.Update
import ImportDepth.Proofs.FileSystem.Below
import ImportDepth.Proofs.FileSystem.Change

/-! What a file that is put into a directory leaves as it was: everything but what stands under its path. -/
namespace ImportDepth

namespace Entry

variable {name n : Text} {e new : Entry} {entries : List (Text × Entry)} {directory p : List Text}
  {content : Bytes}

theorem lookup_set : (set entries name e).lookup n = if n = name then some e else entries.lookup n := by
  induction entries with
  | nil =>
    rw [set, List.lookup_cons]
    by_cases same : n = name
    · simp [same]
    · rw [beq_false_of_ne same, if_neg same]
  | cons entry rest ih =>
    obtain ⟨first, old⟩ := entry
    rw [set]
    by_cases here : first = name
    · subst here
      rw [if_pos rfl, List.lookup_cons, List.lookup_cons]
      by_cases same : n = first
      · simp [same]
      · rw [beq_false_of_ne same, if_neg same]
    · rw [if_neg here, List.lookup_cons, List.lookup_cons, ih]
      by_cases same : n = name
      · subst same
        rw [beq_false_of_ne (Ne.symm here)]
      · rw [if_neg same, if_neg same]

theorem put_of_lookup (looked : entries.lookup name = some e) :
    (Entry.directory entries).put new (name :: p) = .directory (set entries name (e.put new p)) := by
  rw [put, looked, Option.getD_some]

theorem get?_put_self (within : e.get? directory = some (.directory entries)) :
    (e.put new (directory ++ [name])).get? (directory ++ [name]) = some new := by
  induction directory generalizing e with
  | nil =>
    obtain rfl : e = .directory entries := by cases e <;> simp_all [get?]
    simp [put, get?, lookup_set]
  | cons first rest ih =>
    cases e with
    | file _ | link _ => simp [get?] at within
    | directory others =>
      rw [get?] at within
      obtain ⟨child, looked, inside⟩ := Option.bind_eq_some_iff.mp within
      rw [List.cons_append, put_of_lookup looked, get?, lookup_set, if_pos rfl, Option.bind_some]
      exact ih inside

/-- Under every other path a file shows no change, if it takes no place but that of a file. -/
theorem get?_put_bare (within : e.get? directory = some (.directory entries))
    (leaf : ∀ old, e.get? (directory ++ [name]) = some old → ∃ content, old = .file content)
    (other : p ≠ directory ++ [name]) :
    ((e.put (.file content) (directory ++ [name])).get? p).map bare = (e.get? p).map bare := by
  induction directory generalizing e p with
  | nil =>
    obtain rfl : e = .directory entries := by cases e <;> simp_all [get?]
    cases p with
    | nil => rfl
    | cons n rest =>
      simp only [List.nil_append, put, get?, lookup_set]
      by_cases same : n = name
      · subst same
        -- Below a file there is nothing, neither before nor after.
        have nonempty : rest ≠ [] := fun empty => other (by rw [empty]; rfl)
        obtain ⟨next, rest, rfl⟩ := List.exists_cons_of_ne_nil nonempty
        rw [if_pos rfl, Option.bind_some, get?]
        · cases looked : entries.lookup n with
          | none => rfl
          | some old =>
            obtain ⟨held, rfl⟩ := leaf old (by simp [get?, looked])
            rfl
        · intro inner same
          cases same
      · rw [if_neg same]
  | cons first rest ih =>
    cases e with
    | file _ | link _ => simp [get?] at within
    | directory others =>
      rw [get?] at within
      obtain ⟨child, looked, inside⟩ := Option.bind_eq_some_iff.mp within
      rw [List.cons_append, put_of_lookup looked]
      cases p with
      | nil => rfl
      | cons n further =>
        rw [get?, get?, lookup_set]
        by_cases same : n = first
        · subst same
          rw [if_pos rfl, looked, Option.bind_some, Option.bind_some]
          refine ih inside (fun old found => leaf old ?_) (fun equal => other (by rw [equal]; rfl))
          rw [List.cons_append, get?, looked, Option.bind_some, found]
        · rw [if_neg same]

end Entry

namespace FileSystem

variable {fs fs' : FileSystem} {directory f : Path} {name : Text} {content old : Bytes}
  {entries : List (Text × Entry)}

theorem root_of_put {e : Entry} {sound : e.isWellFormed = true} (done : fs.put f e sound = .ok fs') :
    fs'.root = fs.root.put e f := by
  unfold put at done
  split at done
  · cases done
    rfl
  · cases done

/-- A file that is put into a directory, in the place of a file or of nothing, is all that differs. -/
theorem differAt_put (within : fs.get? directory = some (.directory entries))
    (leaf : ∀ e, fs.get? (directory ++ [name]) = some e → ∃ content, e = .file content)
    (done : fs.put (directory ++ [name]) (.file content) rfl = .ok fs') :
    DifferAt (directory ++ [name]) fs fs' where
  elsewhere p other := by
    rw [get?, get?, root_of_put done, Entry.get?_put_bare within leaf other]
  before := leaf
  after e found := by
    rw [get?, root_of_put done, Entry.get?_put_self within] at found
    exact ⟨content, (Option.some.inj found).symm⟩

/-- A file that is put in the place of another one differs in its content. -/
theorem differInContent_put (held : fs.get? f = some (.file old))
    (done : fs.put f (.file content) rfl = .ok fs') (below : f ≠ []) : DifferInContent f fs fs' := by
  obtain ⟨directory, name, rfl⟩ := (List.eq_nil_or_concat f).resolve_left below
  rw [List.concat_eq_append] at held done ⊢
  obtain ⟨entries, within⟩ : ∃ entries, fs.get? directory = some (.directory entries) := by
    obtain ⟨d, reached, inside⟩ := get?_of_append held
    cases d with
    | file _ | link _ => simp [Entry.get?] at inside
    | directory entries => exact ⟨entries, reached⟩
  have leaf : ∀ e, fs.get? (directory ++ [name]) = some e → ∃ content, e = .file content := by
    intro e found
    exact ⟨old, (Option.some.inj (held.symm.trans found)).symm⟩
  refine ⟨differAt_put within leaf done, ?_⟩
  rw [held, get?, root_of_put done, Entry.get?_put_self within]
  rfl

end FileSystem
end ImportDepth
