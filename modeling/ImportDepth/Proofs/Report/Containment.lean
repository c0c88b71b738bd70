import ImportDepth.Proofs.Report
import Mathlib.Data.List.Nodup

/-! Where the files of a report really are. A scan passes no link below its root, so the real path of a file
that it returns is the real path of the root followed by the names by which the file was found. Findings name
files by their real paths, scans order them by these names, and both are the same; hence the findings of one
file stand together, and those of different files in the order of the scan. -/
namespace ImportDepth

variable {fs : FileSystem} {root : Path} {rule : DepthRule} {config : Config} {s : Scan.Selection}
  {nested : Bool} {parts other : List Text} {files : List (List Text)} {f : Finding}

namespace Scan

theorem regular_of_mem_sourceFiles (scanned : sourceFiles fs root s nested = .ok files)
    (member : parts ∈ files) :
    ∃ real entries content, fs.find root = .ok ⟨real, .directory entries⟩ ∧
      fs.get? (real ++ parts) = some (.file content) := by
  obtain ⟨real, entries, found⟩ := find_of_mem_sourceFiles scanned member
  obtain ⟨ignored, source⟩ := isSource_of_mem found scanned member
  obtain ⟨content, below⟩ := source.regular found
  exact ⟨real, entries, content, found, below⟩

theorem increasing_of_sourceFiles (scanned : sourceFiles fs root s nested = .ok files) :
    Increasing files := by
  cases files with
  | nil => exact .nil
  | cons first rest =>
    obtain ⟨real, entries, found⟩ := find_of_mem_sourceFiles scanned List.mem_cons_self
    exact increasing_sourceFiles found scanned

/-- In increasing order no two files have one path. -/
theorem Increasing.nodup_map (increasing : Increasing files) : (files.map Path.relativeText).Nodup := by
  apply List.Pairwise.map Path.relativeText _ increasing
  intro a b smaller same
  rw [same] at smaller
  exact Text.Precedes.irrefl _ smaller

/-- Supported extensions select files that have a dialect. -/
theorem dialect_of_mem_sourceFiles (supported : ∀ e ∈ s.extensions, e ∈ Dialect.supportedExtensions)
    (scanned : sourceFiles fs root s nested = .ok files) (member : parts ∈ files) :
    ∃ dialect, Dialect.ofComponents? parts = some dialect := by
  have known : ∀ e ∈ Dialect.supportedExtensions, e.lower = e ∧ (Dialect.extensions.lookup e).isSome := by
    decide
  obtain ⟨real, entries, found⟩ := find_of_mem_sourceFiles scanned member
  obtain ⟨ignored, source⟩ := isSource_of_mem found scanned member
  obtain ⟨e, wanted, same⟩ := List.mem_map.mp source.extension
  obtain ⟨lowered, listed⟩ := known e (supported e wanted)
  rw [Dialect.ofComponents?, ← same, lowered]
  exact Option.isSome_iff_exists.mp listed

end Scan

namespace SourceFile

/-- A regular file that is really below a root, under the names by which the root leads to it, and is shown
under these names. -/
structure IsContained (fs : FileSystem) (root : Path) (parts : List Text) (content : Bytes) : Prop where
  real : ∃ real, fs.resolve? root = some real ∧ fs.resolve? (root ++ parts) = some (real ++ parts) ∧
    fs.get? (real ++ parts) = some (.file content)
  read : fs.read? (root ++ parts) = some content
  shown : displayPath fs root (root ++ parts) = .ok (Path.relativeText parts)

theorem isContained_of_mem (scanned : Scan.sourceFiles fs root s nested = .ok files)
    (member : parts ∈ files) : ∃ content, IsContained fs root parts content := by
  obtain ⟨real, entries, content, found, below⟩ := Scan.regular_of_mem_sourceFiles scanned member
  have inner := FileSystem.find_append found below (by simp)
  refine ⟨content, ⟨real, ?_, ?_, below⟩, ?_, displayPath_below found below⟩
  · exact FileSystem.resolve?_of_find found (by simp)
  · exact FileSystem.resolve?_of_find inner (by simp)
  · rw [FileSystem.read?, inner]

/-- A file of a scan, looked at on its own, has the findings that it has in a report. -/
theorem lintAt_of_mem (scanned : Scan.sourceFiles fs root s nested = .ok files) (member : parts ∈ files)
    (limit : Nat) :
    lintAt fs root (root ++ parts) (.int limit) = .ok (findingsAt fs root ⟨limit⟩ parts) := by
  obtain ⟨real, entries, content, found, below⟩ := Scan.regular_of_mem_sourceFiles scanned member
  rw [lintAt, open?_below found below, findingsAt, FileSystem.read?,
    FileSystem.find_append found below (by simp)]
  cases Dialect.ofComponents? parts <;> rfl

theorem path_of_mem_findingsAt (member : f ∈ findingsAt fs root rule parts) :
    f.path = Path.relativeText parts := by
  obtain ⟨_, _, _, _, n, _, specifier, _, rfl⟩ := mem_findingsAt_iff.mp member
  rfl

/-- Around the findings of a file there are none that name it. -/
theorem flatMap_findingsAt_split (increasing : Scan.Increasing files) (member : parts ∈ files) :
    ∃ before after, files.flatMap (findingsAt fs root rule) =
        before ++ findingsAt fs root rule parts ++ after ∧
      ∀ g ∈ before ++ after, g.path ≠ Path.relativeText parts := by
  obtain ⟨front, back, rfl⟩ := List.append_of_mem member
  refine ⟨front.flatMap (findingsAt fs root rule), back.flatMap (findingsAt fs root rule), by simp, ?_⟩
  intro g inside named
  rw [← List.flatMap_append] at inside
  obtain ⟨other, among, found⟩ := List.mem_flatMap.mp inside
  have distinct := increasing.nodup_map
  rw [List.map_append, List.map_cons, List.nodup_middle, List.nodup_cons, ← List.map_append] at distinct
  apply distinct.1
  rw [← named, path_of_mem_findingsAt found]
  exact List.mem_map_of_mem among

end SourceFile

namespace Report

/-- Containment. Every file of a scan, whatever links lead to the root or stand below it, is really below the
real root under the names by which it was found, and findings show it under the text of these names, by which
the scan orders the files. The report counts the files and holds their findings file after file in strictly
increasing order; those with one path come from one file and stand together. With supported extensions every
file has a dialect. -/
theorem ofDirectory_contained
    (scanned : Scan.sourceFiles fs root config.selection config.nestedIgnore = .ok files) :
    (∀ parts ∈ files, (∃ content, SourceFile.IsContained fs root parts content) ∧
      SourceFile.lintAt fs root (root ++ parts) (.int config.maxDepth) =
        .ok (SourceFile.findingsAt fs root config.rule parts)) ∧
    Scan.Increasing files ∧
    ((∀ e ∈ config.extensions, e ∈ Dialect.supportedExtensions) →
      ∀ parts ∈ files, ∃ dialect, Dialect.ofComponents? parts = some dialect) ∧
    ∃ report, ofDirectory fs root config = .ok report ∧ report.filesChecked = files.length ∧
      report.findings = files.flatMap (SourceFile.findingsAt fs root config.rule) ∧
      ∀ f ∈ report.findings, ∃ parts ∈ files, f.path = Path.relativeText parts ∧
        (∀ other ∈ files, Path.relativeText other = f.path → other = parts) ∧
        ∃ before after,
          report.findings = before ++ SourceFile.findingsAt fs root config.rule parts ++ after ∧
          f ∈ SourceFile.findingsAt fs root config.rule parts ∧ ∀ g ∈ before ++ after, g.path ≠ f.path := by
  have increasing := Scan.increasing_of_sourceFiles scanned
  refine ⟨?_, increasing, ?_, _, ofDirectory_of_sourceFiles scanned, rfl, rfl, ?_⟩
  · intro parts member
    exact ⟨SourceFile.isContained_of_mem scanned member, SourceFile.lintAt_of_mem scanned member _⟩
  · intro supported parts member
    exact Scan.dialect_of_mem_sourceFiles supported scanned member
  · intro f told
    obtain ⟨parts, member, found⟩ := List.mem_flatMap.mp told
    have named := SourceFile.path_of_mem_findingsAt found
    obtain ⟨before, after, split, others⟩ :=
      @SourceFile.flatMap_findingsAt_split fs root config.rule parts files increasing member
    refine ⟨parts, member, named, ?_, before, after, split, found, ?_⟩
    · intro other among same
      exact List.inj_on_of_nodup_map increasing.nodup_map among member (same.trans named)
    · rw [named]
      exact others

/-- A directory that is reached through a link and holds a link to a file outside. -/
def reached : FileSystem where
  root := .directory [
    ("data", .directory [("project", .directory [
      ("a.js", .file (Utf8.encode "import '../../../x';")),
      ("lib", .directory [("b.ts", .file (Utf8.encode "import '../../../y';"))]),
      ("out.js", .link "../../other.js")])]),
    ("other.js", .file (Utf8.encode "import '../../../z';")),
    ("work", .link "data/project")]

theorem ofDirectory_contained_reached :
    Scan.sourceFiles reached ["work"] ({} : Config).selection false = .ok [["a.js"], ["lib", "b.ts"]] ∧
    (∃ content, SourceFile.IsContained reached ["work"] ["lib", "b.ts"] content) ∧
    reached.resolve? ["work"] = some (["data", "project"] : List Text) ∧
    ∃ report, ofDirectory reached ["work"] {} = .ok report ∧ report.filesChecked = 2 ∧
      report.findings.length = 2 ∧
      ∀ f ∈ report.findings, ∃ parts ∈ ([["a.js"], ["lib", "b.ts"]] : List (List Text)),
        f.path = Path.relativeText parts := by
  have scanned : Scan.sourceFiles reached ["work"] ({} : Config).selection false =
      .ok [["a.js"], ["lib", "b.ts"]] := by
    apply Scan.sourceFiles_eq_ok.mpr
    refine ⟨none, [["a.js"], ["lib", "b.ts"]], [["a.js"], ["lib", "b.ts"]], rfl, by decide +kernel,
      by decide +kernel, ?_⟩
    exact (List.mergeSort_of_pairwise (by decide)).symm
  have two : (([["a.js"], ["lib", "b.ts"]] : List (List Text)).flatMap
      (SourceFile.findingsAt reached ["work"] ({} : Config).rule)).length = 2 := by decide +kernel
  obtain ⟨contained, _, _, report, reported, counted, listed, told⟩ :=
    @ofDirectory_contained reached ["work"] {} _ scanned
  refine ⟨scanned, (contained ["lib", "b.ts"] (by simp)).1, by decide +kernel, report, reported, counted,
    listed ▸ two, ?_⟩
  intro f member
  obtain ⟨parts, among, named, _⟩ := told f member
  exact ⟨parts, among, named⟩

end Report
end ImportDepth
