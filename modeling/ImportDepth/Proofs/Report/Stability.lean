import ImportDepth.Proofs.FileSystem.Reorder
import ImportDepth.Proofs.FileSystem.Update
import ImportDepth.Proofs.Report.Containment
import ImportDepth.Proofs.Scan.Stability

/-! What a report does not depend on. Files do not influence each other: another content of one file changes
at most the findings that name this file. And the order in which directories list their entries changes
nothing at all. -/
namespace ImportDepth

open FileSystem (DifferInContent)

variable {fs fs' : FileSystem} {f root real : Path} {rule : DepthRule} {config : Config} {s : Scan.Selection}
  {nested : Bool} {parts : List Text} {entries : List (Text × Entry)} {content : Bytes}
  {files : List (List Text)} {report : Report} {g : Finding}

/-- The path by which findings name the file under a path without links, if it is below a root. -/
def FileSystem.relativeText? (fs : FileSystem) (root f : Path) : Option Text :=
  (fs.resolve? root).bind fun real => (f.relativeTo? real).map Path.relativeText

namespace SourceFile

theorem relativeText?_below (found : fs.find root = .ok ⟨real, .directory entries⟩) :
    fs.relativeText? root (real ++ parts) = some (Path.relativeText parts) := by
  rw [FileSystem.relativeText?, FileSystem.resolve?_of_find found (by simp), Option.bind_some,
    Path.relativeTo?_append, Option.map_some]

theorem findingsAt_eq_of_ne (differ : DifferInContent f fs fs')
    (found : fs.find root = .ok ⟨real, .directory entries⟩)
    (below : fs.get? (real ++ parts) = some (.file content)) (other : real ++ parts ≠ f) :
    findingsAt fs root rule parts = findingsAt fs' root rule parts := by
  rw [findingsAt, findingsAt, Scan.read?_below_eq differ.toDifferAt found below other]

/-- Only the findings that name the changed file can differ. -/
theorem findingsAt_filter_eq (differ : DifferInContent f fs fs')
    (found : fs.find root = .ok ⟨real, .directory entries⟩)
    (below : fs.get? (real ++ parts) = some (.file content)) :
    (findingsAt fs root rule parts).filter (fun g => some g.path ≠ fs.relativeText? root f) =
      (findingsAt fs' root rule parts).filter (fun g => some g.path ≠ fs.relativeText? root f) := by
  by_cases changed : real ++ parts = f
  · have named : ∀ fs'', (findingsAt fs'' root rule parts).filter
        (fun g => some g.path ≠ fs.relativeText? root f) = [] := by
      intro fs''
      rw [List.filter_eq_nil_iff]
      intro g member
      rw [path_of_mem_findingsAt member, ← changed, relativeText?_below found]
      simp
    rw [named, named]
  · rw [findingsAt_eq_of_ne differ found below changed]

end SourceFile

namespace Report

/-- Files do not influence each other. If two file systems differ in the content of one file, which is an
ignore file neither by its name nor through a link in the root, and the scan comes to its end, then both give
reports. These count the same files, and apart from findings that name the file by its path below the root
they hold the same findings in the same order. -/
theorem ofDirectory_content_independent (differ : DifferInContent f fs fs')
    (unnamed : f.getLast? ≠ some Scan.ignoreFileName)
    (unlinked : ∀ e, fs.find (root ++ [Scan.ignoreFileName]) ≠ .ok ⟨f, e⟩)
    (scanned : Scan.sourceFiles fs root config.selection config.nestedIgnore = .ok files) :
    ∃ report report', ofDirectory fs root config = .ok report ∧ ofDirectory fs' root config = .ok report' ∧
      report'.filesChecked = report.filesChecked ∧
      report'.findings.filter (fun g => some g.path ≠ fs.relativeText? root f) =
        report.findings.filter (fun g => some g.path ≠ fs.relativeText? root f) := by
  have scanned' := Scan.sourceFiles_stable differ unnamed unlinked scanned
  refine ⟨_, _, ofDirectory_of_sourceFiles scanned, ofDirectory_of_sourceFiles scanned', rfl, ?_⟩
  rw [List.filter_flatMap, List.filter_flatMap]
  apply List.flatMap_congr
  intro parts member
  obtain ⟨real, entries, content, found, below⟩ := Scan.regular_of_mem_sourceFiles scanned member
  exact (SourceFile.findingsAt_filter_eq differ found below).symm

def neighbours : FileSystem where
  root := .directory [("work", .directory [("a.js", .file (Utf8.encode "import '../x'")),
    ("b.js", .file [])])]

def neighboursClimbing : FileSystem where
  root := .directory [("work", .directory [("a.js", .file (Utf8.encode "import '../x'")),
    ("b.js", .file (Utf8.encode "import '../y'"))])]

theorem ofDirectory_content_independent_neighbours :
    neighbours.put ["work", "b.js"] (.file (Utf8.encode "import '../y'")) rfl = .ok neighboursClimbing ∧
    Scan.sourceFiles neighbours ["work"] {} false = .ok [["a.js"], ["b.js"]] ∧
    neighbours.relativeText? ["work"] ["work", "b.js"] = some "b.js" ∧
    ∃ report report', ofDirectory neighbours ["work"] { maxDepth := 0 } = .ok report ∧
      ofDirectory neighboursClimbing ["work"] { maxDepth := 0 } = .ok report' ∧
      report.findings.length = 1 ∧ report'.findings.length = 2 ∧
      report'.filesChecked = report.filesChecked ∧
      report'.findings.filter (fun g => some g.path ≠ some ("b.js" : Text)) =
        report.findings.filter (fun g => some g.path ≠ some ("b.js" : Text)) := by
  have done : neighbours.put ["work", "b.js"] (.file (Utf8.encode "import '../y'")) rfl =
      .ok neighboursClimbing := rfl
  have differ : DifferInContent ["work", "b.js"] neighbours neighboursClimbing :=
    FileSystem.differInContent_put rfl done (by simp)
  have unlinked : ∀ e, neighbours.find ["work", ".gitignore"] ≠ .ok ⟨["work", "b.js"], e⟩ :=
    fun e linked => by cases linked
  have scanned : Scan.sourceFiles neighbours ["work"] {} false = .ok [["a.js"], ["b.js"]] := by
    apply Scan.sourceFiles_eq_ok.mpr
    refine ⟨none, [["a.js"], ["b.js"]], [["a.js"], ["b.js"]], rfl, by decide +kernel, by decide +kernel, ?_⟩
    exact (List.mergeSort_of_pairwise (by decide)).symm
  have scanned' := Scan.sourceFiles_stable differ (by decide) unlinked scanned
  have named : neighbours.relativeText? ["work"] ["work", "b.js"] = some "b.js" := by decide +kernel
  have one : (([["a.js"], ["b.js"]] : List (List Text)).flatMap
      (SourceFile.findingsAt neighbours ["work"] ({ maxDepth := 0 } : Config).rule)).length = 1 := by
    decide +kernel
  have two : (([["a.js"], ["b.js"]] : List (List Text)).flatMap
      (SourceFile.findingsAt neighboursClimbing ["work"] ({ maxDepth := 0 } : Config).rule)).length = 2 := by
    decide +kernel
  obtain ⟨report, report', reported, reported', counted, others⟩ :=
    @ofDirectory_content_independent neighbours neighboursClimbing ["work", "b.js"] ["work"]
      { maxDepth := 0 } _ differ (by decide) unlinked scanned
  rw [named] at others
  refine ⟨done, scanned, named, report, report', reported, reported', ?_, ?_, counted, others⟩
  · rw [Except.ok.inj (reported.symm.trans (ofDirectory_of_sourceFiles scanned)), one]
  · rw [Except.ok.inj (reported'.symm.trans (ofDirectory_of_sourceFiles scanned')), two]

end Report

namespace Scan

/-- The ignore files that count can be read and answer every question about a path of names. -/
def IsAnswered (fs : FileSystem) (root : Path) (nested : Bool) : Prop :=
  ∃ m, matcher? fs root nested = .ok m ∧
    ∀ names, (∀ name ∈ names, Entry.isName name = true) → ∃ b, ignoredBy m root names = .ok b

theorem IsAnswered.sourceFiles (answered : IsAnswered fs root nested) (s : Selection) :
    ∃ files, sourceFiles fs root s nested = .ok files := by
  obtain ⟨m, built, total⟩ := answered
  cases directory : fs.isDirectory root with
  | false => exact ⟨[], sourceFiles_of_no_directory directory⟩
  | true =>
    obtain ⟨real, entries, found⟩ := FileSystem.isDirectory_iff.mp directory
    exact sourceFiles_total found built total

theorem sourceFiles_of_reordered (same : fs.Reordered fs')
    (scanned : sourceFiles fs root s nested = .ok files) : sourceFiles fs' root s nested = .ok files :=
  sourceFiles_stable same.differInContent (by decide) (FileSystem.find_ne_nowhere _) scanned

end Scan

namespace Report

theorem ofDirectory_of_reordered (same : fs.Reordered fs')
    (reported : ofDirectory fs root config = .ok report) : ofDirectory fs' root config = .ok report := by
  obtain ⟨files, scanned, _⟩ := bind_ok_iff.mp reported
  have scanned' := Scan.sourceFiles_of_reordered same scanned
  cases reported.symm.trans (ofDirectory_of_sourceFiles scanned)
  rw [ofDirectory_of_sourceFiles scanned', List.flatMap_congr]
  intro parts member
  obtain ⟨real, entries, content, found, below⟩ := Scan.regular_of_mem_sourceFiles scanned member
  have other : real ++ parts ≠ FileSystem.nowhere := by
    intro empty
    rw [empty, FileSystem.get?_nowhere] at below
    cases below
  exact (SourceFile.findingsAt_eq_of_ne same.differInContent found below other).symm

/-- The order in which directories list their entries does not matter. Two file systems that differ in it
alone have the same scans and the same reports, whether or not all ignore files are asked; and if the ignore
files can be read and answer every question, there is a scan and a report. -/
theorem ofDirectory_order_independent (same : fs.Reordered fs') (root : Path) :
    (∀ s nested files, Scan.sourceFiles fs root s nested = .ok files ↔
      Scan.sourceFiles fs' root s nested = .ok files) ∧
    (∀ config report, ofDirectory fs root config = .ok report ↔ ofDirectory fs' root config = .ok report) ∧
    (∀ s nested, Scan.IsAnswered fs root nested → ∃ files,
      Scan.sourceFiles fs root s nested = .ok files ∧ Scan.sourceFiles fs' root s nested = .ok files) ∧
    ∀ config, Scan.IsAnswered fs root config.nestedIgnore → ∃ report,
      ofDirectory fs root config = .ok report ∧ ofDirectory fs' root config = .ok report := by
  refine ⟨fun s nested files => ⟨?_, ?_⟩, fun config report => ⟨?_, ?_⟩, fun s nested answered => ?_,
    fun config answered => ?_⟩
  · exact Scan.sourceFiles_of_reordered same
  · exact Scan.sourceFiles_of_reordered same.symm
  · exact ofDirectory_of_reordered same
  · exact ofDirectory_of_reordered same.symm
  · obtain ⟨files, scanned⟩ := answered.sourceFiles s
    exact ⟨files, scanned, Scan.sourceFiles_of_reordered same scanned⟩
  · obtain ⟨files, scanned⟩ := answered.sourceFiles config.selection
    have reported := ofDirectory_of_sourceFiles scanned
    exact ⟨_, reported, ofDirectory_of_reordered same reported⟩

def listed : FileSystem where
  root := .directory [("x.js", .file []), ("lib", .directory [("a.js", .file []), ("x.js", .file [])]),
    (".gitignore", .file (Utf8.encode "x.js"))]

def listedBackwards : FileSystem where
  root := .directory [(".gitignore", .file (Utf8.encode "x.js")),
    ("lib", .directory [("x.js", .file []), ("a.js", .file [])]), ("x.js", .file [])]

theorem listed_reordered : listed.Reordered listedBackwards := by
  have inner : Entry.Reordered (.directory [("a.js", .file []), ("x.js", .file [])])
      (.directory [("x.js", .file []), ("a.js", .file [])]) := by
    refine .of_lookup rfl (by decide) fun entry member => ?_
    obtain rfl | rfl : entry = _ ∨ entry = _ := by simpa using member
    · exact ⟨_, rfl, .file []⟩
    · exact ⟨_, rfl, .file []⟩
  refine .of_lookup rfl (by decide) fun entry member => ?_
  obtain rfl | rfl | rfl : entry = _ ∨ entry = _ ∨ entry = _ := by simpa using member
  · exact ⟨_, rfl, .file []⟩
  · exact ⟨_, rfl, inner⟩
  · exact ⟨_, rfl, .file _⟩

theorem ofDirectory_order_independent_listed :
    listed.Reordered listedBackwards ∧
    Scan.sourceFiles listed [] {} true = .ok [["lib", "a.js"]] ∧
    Scan.sourceFiles listedBackwards [] {} true = .ok [["lib", "a.js"]] ∧
    ∀ report, ofDirectory listed [] { nestedIgnore := true } = .ok report ↔
      ofDirectory listedBackwards [] { nestedIgnore := true } = .ok report := by
  have scanned : Scan.sourceFiles listed [] {} true = .ok [["lib", "a.js"]] := by decide +kernel
  obtain ⟨scans, reports, _, _⟩ := ofDirectory_order_independent listed_reordered []
  exact ⟨listed_reordered, scanned, (scans {} true _).mp scanned, reports { nestedIgnore := true }⟩

end Report
end ImportDepth
