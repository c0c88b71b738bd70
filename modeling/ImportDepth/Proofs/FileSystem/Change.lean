import ImportDepth.Proofs.FileSystem.Lookup

/-! File systems that differ in one file. Every path that does not lead to this file leads to the same place
in both, and to what shows the same there: the content of a file, or that it is a directory. If only the
content of the file differs, every path leads to the same place. -/
namespace ImportDepth

def Entry.bare : Entry → Entry
  | directory _ => directory []
  | e => e

namespace Entry

variable {e e' : Entry} {content : Bytes}

theorem eq_file_of_bare (same : e'.bare = (file content).bare) : e' = .file content := by
  cases e' <;> simp_all [bare]

theorem eq_directory_of_bare {entries : List (Text × Entry)}
    (same : e'.bare = (directory entries).bare) : ∃ others, e' = .directory others := by
  cases e' <;> simp_all [bare]

theorem onto_of_bare {next : Path} (same : e'.bare = e.bare) :
    FileSystem.Move.onto next e' = FileSystem.Move.onto next e := by
  cases e <;> cases e' <;> simp_all [bare, FileSystem.Move.onto]

end Entry

namespace FileSystem

/-- Two file systems that show the same everywhere except under one path, where each of them holds a file
or nothing. -/
structure DifferAt (f : Path) (fs fs' : FileSystem) : Prop where
  elsewhere : ∀ p, p ≠ f → (fs.get? p).map Entry.bare = (fs'.get? p).map Entry.bare
  before : ∀ e, fs.get? f = some e → ∃ content, e = .file content
  after : ∀ e, fs'.get? f = some e → ∃ content, e = .file content

variable {fs fs' : FileSystem} {f here there p q : Path} {part : Text} {parts : List Text} {m : Move}
  {e : Entry} {entries : List (Text × Entry)} {k : Nat}

/-- From what is no directory nothing leads further. -/
theorem Leads.eq_of_no_directory (way : Leads fs here parts k there)
    (leaf : ∀ entries, fs.get? here ≠ some (.directory entries)) : there = here := by
  cases way with
  | done => rfl
  | step moved _ | follow moved _ _ =>
    obtain ⟨entries, listed⟩ := directory_of_move moved
    exact absurd listed (leaf entries)

namespace DifferAt

theorem symm (differ : DifferAt f fs fs') : DifferAt f fs' fs :=
  ⟨fun p other => (differ.elsewhere p other).symm, differ.after, differ.before⟩

theorem no_directory (differ : DifferAt f fs fs') (entries : List (Text × Entry)) :
    fs.get? f ≠ some (.directory entries) := by
  intro listed
  obtain ⟨content, same⟩ := differ.before _ listed
  cases same

theorem get?_eq_some (differ : DifferAt f fs fs') (other : p ≠ f) (found : fs.get? p = some e) :
    ∃ e', fs'.get? p = some e' ∧ e'.bare = e.bare := by
  have same := differ.elsewhere p other
  rw [found, Option.map_some] at same
  exact Option.map_eq_some_iff.mp same.symm

theorem get?_directory (differ : DifferAt f fs fs') (listed : fs.get? p = some (.directory entries)) :
    ∃ others, fs'.get? p = some (.directory others) := by
  have other : p ≠ f := fun same => differ.no_directory entries (same ▸ listed)
  obtain ⟨e', found, same⟩ := differ.get?_eq_some other listed
  obtain ⟨others, rfl⟩ := Entry.eq_directory_of_bare same
  exact ⟨others, found⟩

theorem get?_file (differ : DifferAt f fs fs') (other : p ≠ f) {content : Bytes}
    (found : fs.get? p = some (.file content)) : fs'.get? p = some (.file content) := by
  obtain ⟨e', found, same⟩ := differ.get?_eq_some other found
  rw [found, Entry.eq_file_of_bare same]

theorem move_eq (differ : DifferAt f fs fs') (moved : fs.move here part = .ok m)
    (other : m ≠ .to f) : fs'.move here part = .ok m := by
  obtain ⟨entries, listed⟩ := directory_of_move moved
  obtain ⟨others, listed'⟩ := differ.get?_directory listed
  rcases move_cases moved with ⟨rfl, rfl⟩ | ⟨rfl, rfl⟩ | ⟨_, _, e, found, rfl⟩
  · simp [move, listed']
  · simp [move, listed', show ("." : Text) ≠ ".." by decide]
  · have elsewhere : here ++ [part] ≠ f := by
      rintro rfl
      obtain ⟨content, rfl⟩ := differ.before e found
      exact other rfl
    obtain ⟨e', found', same⟩ := differ.get?_eq_some elsewhere found
    rw [move_of_get? found', Entry.onto_of_bare same]

/-- What leads to another place than the file leads there in the other file system too. -/
theorem leads (differ : DifferAt f fs fs') (way : Leads fs here parts k there) (other : there ≠ f) :
    Leads fs' here parts k there := by
  induction way with
  | done => exact .done _
  | step moved onward ih =>
    refine .step (differ.move_eq moved ?_) (ih other)
    intro onto
    cases onto
    exact other (onward.eq_of_no_directory differ.no_directory)
  | follow moved inner onward ihInner ihOnward =>
    refine .follow (differ.move_eq moved (by simp)) (ihInner ?_) (ihOnward other)
    rintro rfl
    exact other (onward.eq_of_no_directory differ.no_directory)

theorem find_eq_ok (differ : DifferAt f fs fs') (found : fs.find p = .ok ⟨q, e⟩) (other : q ≠ f) :
    ∃ e', fs'.find p = .ok ⟨q, e'⟩ ∧ e'.bare = e.bare := by
  obtain ⟨k, fewer, way, reached⟩ := find_eq_ok_iff.mp found
  obtain ⟨e', reached', same⟩ := differ.get?_eq_some other reached
  exact ⟨e', find_eq_ok_iff.mpr ⟨k, fewer, differ.leads way other, reached'⟩, same⟩

theorem find_directory (differ : DifferAt f fs fs') (found : fs.find p = .ok ⟨q, .directory entries⟩) :
    ∃ others, fs'.find p = .ok ⟨q, .directory others⟩ := by
  obtain ⟨_, _, _, reached⟩ := find_eq_ok_iff.mp found
  have other : q ≠ f := fun same => differ.no_directory entries (same ▸ reached)
  obtain ⟨e', found', same⟩ := differ.find_eq_ok found other
  obtain ⟨others, rfl⟩ := Entry.eq_directory_of_bare same
  exact ⟨others, found'⟩

theorem isDirectory_eq (differ : DifferAt f fs fs') : fs.isDirectory p = fs'.isDirectory p := by
  have transferred : ∀ {fs fs' : FileSystem}, DifferAt f fs fs' → fs.isDirectory p = true →
      fs'.isDirectory p = true := by
    intro fs fs' differ directory
    obtain ⟨q, entries, found⟩ := isDirectory_iff.mp directory
    obtain ⟨others, found'⟩ := differ.find_directory found
    exact isDirectory_iff.mpr ⟨q, others, found'⟩
  exact Bool.eq_iff_iff.mpr ⟨transferred differ, transferred differ.symm⟩

theorem read?_of_eq_some (differ : DifferAt f fs fs') (apart : ∀ e, fs.find p ≠ .ok ⟨f, e⟩)
    {content : Bytes} (read : fs.read? p = some content) : fs'.read? p = some content := by
  unfold read? at read
  split at read
  · rename_i q content found
    cases read
    have other : q ≠ f := fun same => apart _ (same ▸ found)
    obtain ⟨e', found', same⟩ := differ.find_eq_ok found other
    rw [read?, found', Entry.eq_file_of_bare same]
  · cases read

/-- A path that leads to the file in neither file system shows the same content in both. -/
theorem read?_eq (differ : DifferAt f fs fs') (apart : ∀ e, fs.find p ≠ .ok ⟨f, e⟩)
    (apart' : ∀ e, fs'.find p ≠ .ok ⟨f, e⟩) : fs.read? p = fs'.read? p := by
  refine Option.ext fun content => ⟨differ.read?_of_eq_some apart, differ.symm.read?_of_eq_some apart'⟩

end DifferAt

/-- Two file systems that hold the same entries, in which one file may have different contents. -/
structure DifferInContent (f : Path) (fs fs' : FileSystem) : Prop extends DifferAt f fs fs' where
  present : (fs.get? f).isSome = (fs'.get? f).isSome

namespace DifferInContent

theorem symm (differ : DifferInContent f fs fs') : DifferInContent f fs' fs :=
  ⟨differ.toDifferAt.symm, differ.present.symm⟩

theorem get?_regular (differ : DifferInContent f fs fs') {content : Bytes}
    (found : fs.get? p = some (.file content)) : ∃ other, fs'.get? p = some (.file other) := by
  by_cases same : p = f
  · subst same
    have held : (fs'.get? p).isSome = true := by
      rw [← differ.present, found]
      rfl
    obtain ⟨e, found'⟩ := Option.isSome_iff_exists.mp held
    obtain ⟨other, rfl⟩ := differ.after e found'
    exact ⟨other, found'⟩
  · exact ⟨content, differ.get?_file same found⟩

theorem move_eq (differ : DifferInContent f fs fs') (moved : fs.move here part = .ok m) :
    fs'.move here part = .ok m := by
  by_cases onto : m = .to f
  · subst onto
    obtain ⟨entries, listed⟩ := directory_of_move moved
    obtain ⟨others, listed'⟩ := differ.get?_directory listed
    rcases move_cases moved with ⟨rfl, same⟩ | ⟨rfl, same⟩ | ⟨_, _, e, found, same⟩
    · simp [move, listed', same]
    · simp [move, listed', same, show ("." : Text) ≠ ".." by decide]
    · obtain ⟨rfl, _⟩ := onto_eq_to.mp same.symm
      obtain ⟨content, rfl⟩ := differ.before e found
      obtain ⟨other, found'⟩ := differ.get?_regular found
      rw [move_of_get? found']
      rfl
  · exact differ.toDifferAt.move_eq moved onto

theorem leads (differ : DifferInContent f fs fs') (way : Leads fs here parts k there) :
    Leads fs' here parts k there := by
  induction way with
  | done => exact .done _
  | step moved _ ih => exact .step (differ.move_eq moved) ih
  | follow moved _ _ ihInner ihOnward => exact .follow (differ.move_eq moved) ihInner ihOnward

/-- What leads to the file leads to it in both file systems. -/
theorem find_changed (differ : DifferInContent f fs fs') (found : fs.find p = .ok ⟨f, e⟩) :
    ∃ e', fs'.find p = .ok ⟨f, e'⟩ := by
  obtain ⟨k, fewer, way, reached⟩ := find_eq_ok_iff.mp found
  obtain ⟨content, rfl⟩ := differ.before e reached
  obtain ⟨other, reached'⟩ := differ.get?_regular reached
  exact ⟨_, find_eq_ok_iff.mpr ⟨k, fewer, differ.leads way, reached'⟩⟩

end DifferInContent

theorem isFile_eq_isSome_read? : fs.isFile p = (fs.read? p).isSome := by
  unfold isFile read?
  split <;> rfl

end FileSystem
end ImportDepth
