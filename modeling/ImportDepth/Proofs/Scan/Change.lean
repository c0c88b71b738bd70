import ImportDepth.Proofs.FileSystem.Change
import ImportDepth.Proofs.Scan.Discovery

/-! Scans of two file systems that differ in one file. Unless the file is an ignore file or has a wanted
extension, both scans ask the same rules and return the same files. -/
namespace ImportDepth.Scan

open FileSystem (DifferAt)

/-- A change of one file that the scan of a root with some extensions does not notice: the file has none of
the extensions, and it is no ignore file, neither by its name nor through a link in the root. -/
structure Unnoticed (root : Path) (extensions : List Text) (f : Path) (fs fs' : FileSystem) : Prop where
  differ : DifferAt f fs fs'
  unwanted : (Path.suffix f).lower ∉ extensions.map Text.lower
  unnamed : f.getLast? ≠ some ignoreFileName
  unlinked : ∀ e, fs.find (root ++ [ignoreFileName]) ≠ .ok ⟨f, e⟩
  unlinked' : ∀ e, fs'.find (root ++ [ignoreFileName]) ≠ .ok ⟨f, e⟩

variable {fs fs' : FileSystem} {f root real : Path} {parts : List Text} {ignored : Ignored}
  {s : Selection} {nested : Bool} {entries : List (Text × Entry)} {content : Bytes}
  {files others : List (List Text)}

/-- A regular file below a directory is found under its own path. -/
theorem find_ne_of_below (found : fs.find root = .ok ⟨real, .directory entries⟩)
    (below : fs.get? (real ++ parts) = some (.file content)) (other : real ++ parts ≠ f) (e : Entry) :
    fs.find (root ++ parts) ≠ .ok ⟨f, e⟩ := by
  rw [FileSystem.find_append found below (by simp)]
  intro same
  cases same
  exact other rfl

theorem read?_below_eq (differ : DifferAt f fs fs')
    (found : fs.find root = .ok ⟨real, .directory entries⟩)
    (below : fs.get? (real ++ parts) = some (.file content)) (other : real ++ parts ≠ f) :
    fs.read? (root ++ parts) = fs'.read? (root ++ parts) := by
  obtain ⟨entries', found'⟩ := differ.find_directory found
  exact differ.read?_eq (find_ne_of_below found below other)
    (find_ne_of_below found' (differ.get?_file other below) other)

theorem ne_of_ignoreFile (unnamed : f.getLast? ≠ some ignoreFileName)
    (last : parts.getLast? = some ignoreFileName) : real ++ parts ≠ f := by
  rintro rfl
  exact unnamed (by simp [List.getLast?_append, last])

theorem ignoreFiles_eq (differ : DifferAt f fs fs') (unnamed : f.getLast? ≠ some ignoreFileName)
    (found : fs.find root = .ok ⟨real, .directory entries⟩) :
    ignoreFiles fs root = ignoreFiles fs' root := by
  obtain ⟨entries', found'⟩ := differ.find_directory found
  obtain ⟨listed, asked, members, increasing⟩ := ignoreFiles_exact found
  obtain ⟨listed', asked', members', increasing'⟩ := ignoreFiles_exact found'
  rw [asked, asked', eq_of_increasing increasing increasing' fun p => ?_]
  rw [members, members']
  refine and_congr_left fun last => and_congr_left fun _ => exists_congr fun content => ?_
  have other : real ++ p ≠ f := ne_of_ignoreFile unnamed last
  exact ⟨differ.get?_file other, differ.symm.get?_file other⟩

/-- Both scans ask the same rules, unless the file is an ignore file by its name or through a link. -/
theorem matcher?_eq (differ : DifferAt f fs fs') (unnamed : f.getLast? ≠ some ignoreFileName)
    (unlinked : ∀ e, fs.find (root ++ [ignoreFileName]) ≠ .ok ⟨f, e⟩)
    (unlinked' : ∀ e, fs'.find (root ++ [ignoreFileName]) ≠ .ok ⟨f, e⟩)
    (found : fs.find root = .ok ⟨real, .directory entries⟩) :
    matcher? fs root nested = matcher? fs' root nested := by
  have readRoot := differ.read?_eq unlinked unlinked'
  cases nested with
  | false =>
    simp only [matcher?, Bool.false_eq_true, if_false, FileSystem.isFile_eq_isSome_read?, rulesAt, readRoot]
  | true =>
    obtain ⟨listed, asked, members, _⟩ := ignoreFiles_exact found
    have rules : ∀ parts ∈ listed, rulesAt fs (root ++ parts) = rulesAt fs' (root ++ parts) := by
      intro parts member
      obtain ⟨⟨⟨content, below⟩, _⟩, last⟩ := (members parts).mp member
      have other : real ++ parts ≠ f := ne_of_ignoreFile unnamed last
      rw [rulesAt, rulesAt, read?_below_eq differ found below other]
    simp only [matcher?, ← ignoreFiles_eq differ unnamed found, asked, if_true, bind, Except.bind]
    cases listed with
    | nil => rfl
    | cons first rest => simp only [mapM_congr rules]

namespace IsSource

theorem ne_of_unwanted (unwanted : (Path.suffix f).lower ∉ s.extensions.map Text.lower)
    (nonempty : parts ≠ []) (source : IsSource fs root ignored s parts) : real ++ parts ≠ f := by
  rintro rfl
  rw [Path.suffix_append nonempty] at unwanted
  exact unwanted source.extension

/-- A source file is one in every file system that has a regular file under its path. -/
theorem of_regular {real' : Path} {entries' : List (Text × Entry)}
    (found' : fs'.find root = .ok ⟨real', .directory entries'⟩)
    (regular : ∃ content, fs'.get? (real' ++ parts) = some (.file content))
    (source : IsSource fs root ignored s parts) : IsSource fs' root ignored s parts := by
  obtain ⟨_, file, unlinked⟩ := (FileSystem.regular_iff found').mpr regular
  exact { source with file := file, unlinked := unlinked }

theorem transfer (change : Unnoticed root s.extensions f fs fs')
    (found : fs.find root = .ok ⟨real, .directory entries⟩) (source : IsSource fs root ignored s parts) :
    IsSource fs' root ignored s parts := by
  obtain ⟨entries', found'⟩ := change.differ.find_directory found
  obtain ⟨content, below⟩ := source.regular found
  have other : real ++ parts ≠ f := source.ne_of_unwanted change.unwanted (ne_nil_of_file found below)
  exact source.of_regular found' ⟨content, change.differ.get?_file other below⟩

theorem read?_eq (change : Unnoticed root s.extensions f fs fs')
    (found : fs.find root = .ok ⟨real, .directory entries⟩) (source : IsSource fs root ignored s parts) :
    fs.read? (root ++ parts) = fs'.read? (root ++ parts) := by
  obtain ⟨content, below⟩ := source.regular found
  have other : real ++ parts ≠ f := source.ne_of_unwanted change.unwanted (ne_nil_of_file found below)
  exact read?_below_eq change.differ found below other

end IsSource

namespace Unnoticed

theorem symm {extensions : List Text} (change : Unnoticed root extensions f fs fs') :
    Unnoticed root extensions f fs' fs :=
  ⟨change.differ.symm, change.unwanted, change.unnamed, change.unlinked', change.unlinked⟩

/-- With fewer extensions less is noticed. -/
theorem mono {extensions fewer : List Text} (change : Unnoticed root extensions f fs fs')
    (subset : fewer ⊆ extensions) : Unnoticed root fewer f fs fs' :=
  { change with unwanted := fun member => change.unwanted (List.map_subset _ subset member) }

/-- Two scans around a change that they do not notice return the same files. -/
theorem sourceFiles_eq (change : Unnoticed root s.extensions f fs fs')
    (found : fs.find root = .ok ⟨real, .directory entries⟩)
    (scanned : sourceFiles fs root s nested = .ok files)
    (scanned' : sourceFiles fs' root s nested = .ok others) : files = others := by
  obtain ⟨entries', found'⟩ := change.differ.find_directory found
  obtain ⟨m, _, _, built, _⟩ := sourceFiles_eq_ok.mp scanned
  have rules : matcher? fs root nested = matcher? fs' root nested :=
    matcher?_eq change.differ change.unnamed change.unlinked change.unlinked' found
  have built' : matcher? fs' root nested = .ok m := rules.symm.trans built
  refine eq_of_increasing (increasing_sourceFiles found scanned) (increasing_sourceFiles found' scanned') ?_
  intro p
  rw [mem_sourceFiles_iff found built scanned, mem_sourceFiles_iff found' built' scanned']
  exact ⟨fun source => source.transfer change found, fun source => source.transfer change.symm found'⟩

end Unnoticed

end ImportDepth.Scan
