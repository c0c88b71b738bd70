import ImportDepth.Proofs.FileSystem.Change

/-! Directories that list their entries in another order. Under every path there stands the same, so two such
file systems differ in no file at all. -/
namespace ImportDepth

namespace Entry

/-- The same entry, but every directory in it may list what it holds in another order. -/
inductive Reordered : Entry → Entry → Prop
  | file (content : Bytes) : Reordered (.file content) (.file content)
  | link (target : Text) : Reordered (.link target) (.link target)
  | directory {entries others : List (Text × Entry)}
      (names : (entries.map Prod.fst).Perm (others.map Prod.fst))
      (each : ∀ name e e', (name, e) ∈ entries → (name, e') ∈ others → Reordered e e') :
      Reordered (.directory entries) (.directory others)

variable {e e' : Entry} {name : Text} {entries : List (Text × Entry)}

theorem lookup_isSome_iff : (entries.lookup name).isSome = true ↔ name ∈ entries.map Prod.fst := by
  induction entries with
  | nil => simp
  | cons entry rest ih =>
    rw [List.lookup_cons, List.map_cons, List.mem_cons, ← ih]
    split
    · rename_i same
      simp [beq_iff_eq.mp same]
    · rename_i other
      simp [beq_eq_false_iff_ne.mp other]

/-- It is enough to look up the names of one listing in the other. -/
theorem Reordered.of_lookup {others : List (Text × Entry)} (sound : areWellFormed others = true)
    (names : (entries.map Prod.fst).Perm (others.map Prod.fst))
    (each : ∀ entry ∈ entries, ∃ e', others.lookup entry.1 = some e' ∧ Reordered entry.2 e') :
    Reordered (.directory entries) (.directory others) := by
  apply Reordered.directory names
  intro name e e' member member'
  obtain ⟨other, looked, same⟩ := each (name, e) member
  cases looked.symm.trans (lookup_of_mem sound member')
  exact same

theorem Reordered.symm (same : Reordered e e') : Reordered e' e := by
  induction same with
  | file content => exact .file content
  | link target => exact .link target
  | directory names _ ih =>
    exact .directory names.symm fun name e e' member member' => ih name e' e member' member

theorem Reordered.get?_bare (same : Reordered e e') (p : List Text) :
    (e.get? p).map bare = (e'.get? p).map bare := by
  induction same generalizing p with
  | file content => rfl
  | link target => rfl
  | @directory entries others names each ih =>
    cases p with
    | nil => rfl
    | cons name rest =>
      have both : (entries.lookup name).isSome = true ↔ (others.lookup name).isSome = true := by
        rw [lookup_isSome_iff, lookup_isSome_iff]
        exact names.mem_iff
      rw [get?, get?]
      cases looked : entries.lookup name with
      | none =>
        have none' : others.lookup name = none := by
          rw [← Option.not_isSome_iff_eq_none, ← both, looked]
          exact Bool.false_ne_true
        rw [none']
      | some e =>
        have some' : (others.lookup name).isSome = true := both.mp (by rw [looked]; rfl)
        obtain ⟨e', looked'⟩ := Option.isSome_iff_exists.mp some'
        rw [looked']
        exact ih name e e' (mem_of_lookup looked) (mem_of_lookup looked') rest

end Entry

namespace FileSystem

variable {fs fs' : FileSystem}

def Reordered (fs fs' : FileSystem) : Prop := fs.root.Reordered fs'.root

theorem Reordered.symm (same : fs.Reordered fs') : fs'.Reordered fs := Entry.Reordered.symm same

/-- A path under which nothing can stand, because a name is not empty. -/
def nowhere : Path := [[]]

theorem get?_nowhere : fs.get? nowhere = none := by
  rw [Option.eq_none_iff_forall_ne_some]
  intro e found
  obtain ⟨proper, _⟩ := Entry.get?_isWellFormed fs.wellFormed found
  exact absurd (proper [] (by simp [nowhere])) (by decide)

theorem find_ne_nowhere (p : Path) (e : Entry) : fs.find p ≠ .ok ⟨nowhere, e⟩ := by
  intro found
  obtain ⟨_, _, _, reached⟩ := find_eq_ok_iff.mp found
  rw [get?_nowhere] at reached
  cases reached

theorem Reordered.differInContent (same : fs.Reordered fs') : DifferInContent nowhere fs fs' where
  elsewhere p _ := Entry.Reordered.get?_bare same p
  before e found := by
    rw [get?_nowhere] at found
    cases found
  after e found := by
    rw [get?_nowhere] at found
    cases found
  present := by rw [get?_nowhere, get?_nowhere]

end FileSystem
end ImportDepth
