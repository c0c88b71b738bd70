import ImportDepth.Proofs.Findings
import ImportDepth.Proofs.Scan.Change
import ImportDepth.Report.Directory

/-! The report on a directory in terms of its source files: each of them is looked at once, under the path
by which it was found, and there are findings exactly if some file holds a reference that is too deep. -/
namespace ImportDepth

variable {fs : FileSystem} {root real : Path} {rule : DepthRule} {limit : Nat} {config : Config}
  {parts : List Text} {entries : List (Text × Entry)} {content : Bytes} {files : List (List Text)}

/-- A file below a root that holds a reference which climbs further than a limit allows. -/
def Offends (fs : FileSystem) (root : Path) (limit : Nat) (parts : List Text) : Prop :=
  ∃ dialect content, Dialect.ofComponents? parts = some dialect ∧
    fs.read? (root ++ parts) = some content ∧
    ∃ n ∈ (Source.parse dialect content).preorder, ∃ specifier, n.TooDeep limit specifier

theorem Source.lint_eq_filterMap {path : Text} {dialect : Dialect} :
    lint rule path dialect content = (parse dialect content).preorder.filterMap (rule.finding? path) :=
  DepthRule.eq_filterMap_of_findings rule path (findings_parse rule path dialect content)

theorem Source.mem_lint_iff {path : Text} {dialect : Dialect} {f : Finding} :
    f ∈ lint rule path dialect content ↔ ∃ n ∈ (parse dialect content).preorder, ∃ specifier,
      n.TooDeep rule.limit specifier ∧ f = Finding.expected path rule.limit n specifier :=
  DepthRule.mem_findings_iff rule path (findings_parse rule path dialect content)

namespace SourceFile

def findingsAt (fs : FileSystem) (root : Path) (rule : DepthRule) (parts : List Text) : List Finding :=
  match Dialect.ofComponents? parts, fs.read? (root ++ parts) with
  | some dialect, some content => Source.lint rule (Path.relativeText parts) dialect content
  | _, _ => []

theorem mem_findingsAt_iff {f : Finding} : f ∈ findingsAt fs root rule parts ↔
    ∃ dialect content, Dialect.ofComponents? parts = some dialect ∧
      fs.read? (root ++ parts) = some content ∧
      ∃ n ∈ (Source.parse dialect content).preorder, ∃ specifier, n.TooDeep rule.limit specifier ∧
        f = Finding.expected (Path.relativeText parts) rule.limit n specifier := by
  unfold findingsAt
  split
  · rename_i dialect content decided read
    simp [Source.mem_lint_iff, decided, read]
  · rename_i missing
    refine iff_of_false (by simp) ?_
    rintro ⟨dialect, content, decided, read, _⟩
    exact missing dialect content decided read

theorem displayPath_below (found : fs.find root = .ok ⟨real, .directory entries⟩)
    (below : fs.get? (real ++ parts) = some (.file content)) :
    displayPath fs root (root ++ parts) = .ok (Path.relativeText parts) := by
  have inner := FileSystem.find_append found below (by simp)
  rw [displayPath, FileSystem.resolve?_of_find inner (by simp),
    FileSystem.resolve?_of_find found (by simp)]
  simp [Path.relativeTo?_append]

theorem ofComponents?_below (found : fs.find root = .ok ⟨real, .directory entries⟩)
    (below : fs.get? (real ++ parts) = some (.file content)) :
    Dialect.ofComponents? (root ++ parts) = Dialect.ofComponents? parts := by
  rw [Dialect.ofComponents?, Dialect.ofComponents?,
    Path.suffix_append (Scan.ne_nil_of_file found below)]

/-- A regular file below a root is opened under the path by which it was found. -/
theorem open?_below (found : fs.find root = .ok ⟨real, .directory entries⟩)
    (below : fs.get? (real ++ parts) = some (.file content)) :
    open? fs root (root ++ parts) = .ok ((Dialect.ofComponents? parts).map fun dialect =>
      ⟨Path.relativeText parts, dialect, content⟩) := by
  rw [open?, ofComponents?_below found below, FileSystem.read?,
    FileSystem.find_append found below (by simp), displayPath_below found below]
  cases Dialect.ofComponents? parts <;> rfl

theorem findingsAt_below (found : fs.find root = .ok ⟨real, .directory entries⟩)
    (below : fs.get? (real ++ parts) = some (.file content)) :
    ∃ file?, open? fs root (root ++ parts) = .ok file? ∧
      (file?.map (·.lint rule)).getD [] = findingsAt fs root rule parts := by
  refine ⟨_, open?_below found below, ?_⟩
  rw [findingsAt, FileSystem.read?, FileSystem.find_append found below (by simp)]
  cases Dialect.ofComponents? parts <;> rfl

end SourceFile

namespace Report

theorem addFiles_eq {r : Report}
    (each : ∀ parts ∈ files, ∃ file?, SourceFile.open? fs root (root ++ parts) = .ok file? ∧
      (file?.map (·.lint rule)).getD [] = SourceFile.findingsAt fs root rule parts) :
    addFiles fs root rule r files = .ok ⟨r.filesChecked + files.length,
      r.findings ++ files.flatMap (SourceFile.findingsAt fs root rule)⟩ := by
  induction files generalizing r with
  | nil => simp [addFiles]
  | cons parts rest ih =>
    obtain ⟨file?, opened, same⟩ := each parts (by simp)
    rw [addFiles, bind_ok_iff]
    refine ⟨file?, opened, ?_⟩
    rw [ih fun p member => each p (.tail _ member), add, same]
    simp [Int.add_assoc, Int.add_comm 1]

/-- The report on a directory counts its source files and holds their findings, file after file. -/
theorem ofDirectory_eq (found : fs.find root = .ok ⟨real, .directory entries⟩)
    (scanned : Scan.sourceFiles fs root config.selection config.nestedIgnore = .ok files) :
    ofDirectory fs root config = .ok ⟨files.length,
      files.flatMap (SourceFile.findingsAt fs root config.rule)⟩ := by
  have each : ∀ parts ∈ files, ∃ file?, SourceFile.open? fs root (root ++ parts) = .ok file? ∧
      (file?.map (·.lint config.rule)).getD [] =
        SourceFile.findingsAt fs root config.rule parts := by
    intro parts member
    obtain ⟨ignored, source⟩ := Scan.isSource_of_mem found scanned member
    obtain ⟨content, below⟩ := source.regular found
    exact SourceFile.findingsAt_below found below
  refine bind_ok_iff.mpr ⟨files, scanned, ?_⟩
  simpa using addFiles_eq (r := {}) each

/-- The report after a scan. A root that is no directory has no source files. -/
theorem ofDirectory_of_sourceFiles
    (scanned : Scan.sourceFiles fs root config.selection config.nestedIgnore = .ok files) :
    ofDirectory fs root config = .ok ⟨files.length,
      files.flatMap (SourceFile.findingsAt fs root config.rule)⟩ := by
  cases files with
  | nil => exact bind_ok_iff.mpr ⟨[], scanned, rfl⟩
  | cons parts rest =>
    obtain ⟨real, entries, found⟩ := Scan.find_of_mem_sourceFiles scanned List.mem_cons_self
    exact ofDirectory_eq found scanned

/-- Two reports around a change that the scan does not notice are the same. -/
theorem ofDirectory_eq_of_unnoticed {fs' : FileSystem} {f : Path} {others : List (List Text)}
    (change : Scan.Unnoticed root config.extensions f fs fs')
    (found : fs.find root = .ok ⟨real, .directory entries⟩)
    (scanned : Scan.sourceFiles fs root config.selection config.nestedIgnore = .ok files)
    (scanned' : Scan.sourceFiles fs' root config.selection config.nestedIgnore = .ok others) :
    ofDirectory fs root config = ofDirectory fs' root config := by
  obtain ⟨entries', found'⟩ := change.differ.find_directory found
  have selected : Scan.Unnoticed root config.selection.extensions f fs fs' := change
  obtain rfl := selected.sourceFiles_eq found scanned scanned'
  have each : ∀ parts ∈ files, SourceFile.findingsAt fs root config.rule parts =
      SourceFile.findingsAt fs' root config.rule parts := by
    intro parts member
    obtain ⟨ignored, source⟩ := Scan.isSource_of_mem found scanned member
    rw [SourceFile.findingsAt, SourceFile.findingsAt, source.read?_eq selected found]
  rw [ofDirectory_eq found scanned, ofDirectory_eq found' scanned', List.flatMap_congr each]

end Report
end ImportDepth
