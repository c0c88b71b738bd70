import ImportDepth.Proofs.Scan.Change
import ImportDepth.Proofs.Scan.OwnDirectory

/-! What a scan does not depend on. The walk asks about directories, and whether it comes to its end is
decided by the answers, in whatever order they are given; of contents only those of ignore files are read.
Hence a scan of a file system in which another file has a different content, or in which directories list
their entries in another order, comes to its end as well, and returns the same files. -/
namespace ImportDepth

theorem Entry.induct_children {P : Entry → Prop} (file : ∀ content, P (.file content))
    (link : ∀ target, P (.link target))
    (directory : ∀ entries, (∀ entry ∈ entries, P entry.2) → P (.directory entries)) (e : Entry) : P e := by
  refine Entry.links.induct P (fun entries => ∀ entry ∈ entries, P entry.2) file link directory ?_ ?_ e
  · intro entry member
    cases member
  · intro name e rest ih ihRest entry member
    rcases List.mem_cons.mp member with rfl | member
    · exact ih
    · exact ihRest entry member

namespace Scan

open FileSystem (DifferInContent)

variable {fs fs' : FileSystem} {f root real : Path} {ignored : Ignored} {s : Selection} {nested : Bool}
  {here parts : List Text} {entries entries' : List (Text × Entry)} {content : Bytes}
  {files : List (List Text)}

theorem walkEntries_total
    (each : ∀ entry ∈ entries, ∃ pruned, isPruned ignored here entry.1 entry.2 = .ok pruned ∧
      (pruned = false → ∃ inner, walk ignored (here ++ [entry.1]) entry.2 = .ok inner)) :
    ∃ files, walkEntries ignored here entries = .ok files := by
  induction entries with
  | nil => exact ⟨[], rfl⟩
  | cons entry rest ih =>
    obtain ⟨name, e⟩ := entry
    obtain ⟨pruned, asked, entered⟩ := each (name, e) (by simp)
    obtain ⟨further, onward⟩ := ih fun entry member => each entry (.tail _ member)
    cases pruned with
    | true => exact ⟨_, walkEntries_cons_eq_ok.mpr ⟨true, [], further, asked, rfl, onward, rfl⟩⟩
    | false =>
      obtain ⟨inner, walked⟩ := entered rfl
      exact ⟨_, walkEntries_cons_eq_ok.mpr ⟨false, inner, further, asked, walked, onward, rfl⟩⟩

/-- A walk comes to its end if another one does that has met all of its directories. -/
theorem walk_ends (e' : Entry) : ∀ (here : List Text) (e : Entry) (files : List (List Text)),
    e'.isWellFormed = true → walk ignored here e = .ok files →
    (∀ q inner', e'.get? q = some (.directory inner') → ∃ inner, e.get? q = some (.directory inner)) →
      ∃ files', walk ignored here e' = .ok files' := by
  induction e' using Entry.induct_children with
  | file content =>
    intro here _ _ _ _ _
    exact ⟨[here], rfl⟩
  | link target =>
    intro here _ _ _ _ _
    exact ⟨[], rfl⟩
  | directory entries' ih =>
    intro here e files sound walked known
    obtain ⟨entries, rfl⟩ : ∃ entries, e = .directory entries := by
      obtain ⟨entries, same⟩ := known [] entries' rfl
      cases e <;> simp_all [Entry.get?]
    rw [Entry.isWellFormed] at sound
    rw [walk] at walked ⊢
    apply walkEntries_total
    rintro ⟨name, child'⟩ member
    have looked' := Entry.lookup_of_mem sound member
    cases child' with
    | file content => exact ⟨false, rfl, fun _ => ⟨_, rfl⟩⟩
    | link target => exact ⟨false, rfl, fun _ => ⟨_, rfl⟩⟩
    | directory inner' =>
      obtain ⟨inner, reached⟩ := known [name] inner' (by simp [Entry.get?, looked'])
      have looked : entries.lookup name = some (.directory inner) := by
        simpa [Entry.get?] using reached
      obtain ⟨pruned, asked, entered⟩ := walkEntries_of_mem walked (Entry.mem_of_lookup looked)
      refine ⟨pruned, asked, fun kept => ?_⟩
      obtain ⟨further, onward⟩ := entered kept
      have inside := (Entry.areWellFormed_lookup sound looked').2
      refine ih (name, .directory inner') member (here ++ [name]) _ further inside onward ?_
      intro q deeper found
      have met := known (name :: q) deeper (by simp [Entry.get?, looked', found])
      simpa [Entry.get?, looked] using met

theorem list?_of_no_directory (missing : fs.isDirectory root = false) : fs.list? root = none := by
  unfold FileSystem.isDirectory at missing
  unfold FileSystem.list?
  split
  · simp_all
  · rfl

/-- Without a directory there is nothing to scan. -/
theorem sourceFiles_of_no_directory (missing : fs.isDirectory root = false) :
    sourceFiles fs root s nested = .ok [] := by
  have none' : ∀ ignored, filesBelow fs root ignored = .ok [] := by
    intro ignored
    rw [filesBelow, list?_of_no_directory missing]
  have built : matcher? fs root nested = .ok none := by
    cases nested with
    | true =>
      have listed : ignoreFiles fs root = .ok [] :=
        bind_ok_iff.mpr ⟨[], none' _, congrArg Except.ok List.mergeSort_nil⟩
      rw [matcher?, if_pos rfl, listed]
      rfl
    | false =>
      have absent : ¬ fs.isFile (root ++ [ignoreFileName]) = true := by
        intro file
        unfold FileSystem.isFile at file
        split at file
        · rename_i inside
          obtain ⟨real, entries, found⟩ := FileSystem.find_directory_of_append inside (by simp)
          rw [FileSystem.isDirectory_iff.mpr ⟨real, entries, found⟩] at missing
          cases missing
        · cases file
      rw [matcher?, if_neg Bool.false_ne_true, if_neg absent]
      rfl
  exact sourceFiles_eq_ok.mpr ⟨none, [], [], built, none' _, rfl, List.mergeSort_nil.symm⟩

section Content

variable (differ : DifferInContent f fs fs')
include differ

theorem filesBelow_ends (found : fs.find root = .ok ⟨real, .directory entries⟩)
    (found' : fs'.find root = .ok ⟨real, .directory entries'⟩)
    (walked : filesBelow fs root ignored = .ok files) :
    ∃ files', filesBelow fs' root ignored = .ok files' := by
  obtain ⟨_, _, _, reached⟩ := FileSystem.find_eq_ok_iff.mp found
  obtain ⟨_, _, _, reached'⟩ := FileSystem.find_eq_ok_iff.mp found'
  rw [filesBelow_eq_walk found] at walked
  rw [filesBelow_eq_walk found']
  refine walk_ends _ _ _ _ (isWellFormed_of_find found') walked fun q inner' inside => ?_
  have below : fs'.get? (real ++ q) = some (.directory inner') := by
    rw [FileSystem.get?, Entry.get?_append, ← FileSystem.get?, reached']
    exact inside
  obtain ⟨inner, met⟩ := differ.symm.get?_directory below
  rw [FileSystem.get?, Entry.get?_append, ← FileSystem.get?, reached] at met
  exact ⟨inner, met⟩

/-- A scan that comes to its end returns the same files if the content of a file differs that is no ignore
file, neither by its name nor through a link in the root. -/
theorem sourceFiles_stable (unnamed : f.getLast? ≠ some ignoreFileName)
    (unlinked : ∀ e, fs.find (root ++ [ignoreFileName]) ≠ .ok ⟨f, e⟩)
    (scanned : sourceFiles fs root s nested = .ok files) : sourceFiles fs' root s nested = .ok files := by
  cases directory : fs.isDirectory root with
  | false =>
    rw [sourceFiles_of_no_directory directory] at scanned
    cases scanned
    exact sourceFiles_of_no_directory (differ.isDirectory_eq ▸ directory)
  | true =>
    obtain ⟨real, entries, found⟩ := FileSystem.isDirectory_iff.mp directory
    obtain ⟨entries', found'⟩ := differ.find_directory found
    have unlinked' : ∀ e, fs'.find (root ++ [ignoreFileName]) ≠ .ok ⟨f, e⟩ := by
      intro e linked
      obtain ⟨e', linked'⟩ := differ.symm.find_changed linked
      exact unlinked e' linked'
    obtain ⟨m, candidates, kept, built, walked, tested, _⟩ := sourceFiles_eq_ok.mp scanned
    have built' : matcher? fs' root nested = .ok m :=
      (matcher?_eq differ.toDifferAt unnamed unlinked unlinked' found).symm.trans built
    obtain ⟨candidates', walked'⟩ := filesBelow_ends differ found found' walked
    -- Every candidate of the second scan is one of the first, where it was tested with the same answer.
    obtain ⟨kept', tested'⟩ : ∃ kept', keep (fun parts =>
        includes fs' root (ignoredBy m root) s.lowered (root ++ parts)) candidates' = .ok kept' := by
      apply keep_total
      intro parts member
      obtain ⟨⟨content', below'⟩, inside⟩ := (mem_filesBelow_iff found' walked' parts).mp member
      obtain ⟨content, below⟩ := differ.symm.get?_regular below'
      have candidate := (mem_filesBelow_iff found walked parts).mpr ⟨⟨content, below⟩, inside⟩
      obtain ⟨b, answered⟩ := keep_answers tested candidate
      rw [includes_below found below] at answered
      exact ⟨b, (includes_below found' below').trans answered⟩
    have scanned' : sourceFiles fs' root s nested = .ok (sorted kept') :=
      sourceFiles_eq_ok.mpr ⟨m, candidates', kept', built', walked', tested', rfl⟩
    rw [scanned', eq_of_increasing (increasing_sourceFiles found' scanned')
      (increasing_sourceFiles found scanned) fun p => ?_]
    rw [mem_sourceFiles_iff found built scanned, mem_sourceFiles_iff found' built' scanned']
    constructor
    · intro source
      obtain ⟨content, below⟩ := source.regular found'
      exact source.of_regular found (differ.symm.get?_regular below)
    · intro source
      obtain ⟨content, below⟩ := source.regular found
      exact source.of_regular found' (differ.get?_regular below)

end Content

end Scan
end ImportDepth
