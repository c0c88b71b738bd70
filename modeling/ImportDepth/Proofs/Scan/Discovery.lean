import ImportDepth.Proofs.Ignore
import ImportDepth.Proofs.Scan.Walk
import ImportDepth.Scan.SourceFiles

/-! Exactness of a scan. A source file is told by questions about its path alone; the scan, which leaves out
directories on its way and looks at the remaining files afterwards, returns exactly the source files, in
strictly increasing order. -/
namespace ImportDepth

namespace Scan

/-- A source file of a directory: a regular file reached through proper directories, none of which is
skipped, with a wanted extension, ignored neither itself nor through a directory, and wanted by the
patterns. -/
structure IsSource (fs : FileSystem) (root : Path) (ignored : Ignored) (s : Selection)
    (parts : List Text) : Prop where
  proper : ∀ name ∈ parts, Entry.isName name = true
  file : fs.isFile (root ++ parts) = true
  unlinked : ∀ r, r <+: parts → r ≠ [] → fs.isLink (root ++ r) = false
  unskipped : ∀ name ∈ parts.dropLast, name ≠ ("node_modules" : Text) ∧ name ≠ (".git" : Text)
  extension : (Path.suffix parts).lower ∈ s.extensions.map Text.lower
  unignored : ∀ r, r <+: parts → r ≠ [] → ignored r = .ok false
  included : s.includePatterns = [] ∨
    ∃ pattern ∈ s.includePatterns, Glob.matchesText pattern (Path.relativeText parts) = true
  unexcluded : ∀ pattern ∈ s.excludePatterns,
    Glob.matchesText pattern (Path.relativeText parts) = false

section Keep

variable {α ε : Type} {test : α → Except ε Bool} {a : α} {rest list kept : List α}

theorem keep_cons_eq_ok : keep test (a :: rest) = .ok kept ↔
    ∃ passed others, test a = .ok passed ∧ keep test rest = .ok others ∧
      kept = if passed then a :: others else others := by
  rw [keep, bind_ok_iff]
  refine exists_congr fun passed => ?_
  constructor
  · rintro ⟨tested, onward⟩
    obtain ⟨others, further, joined⟩ := bind_ok_iff.mp onward
    exact ⟨others, tested, further, (Except.ok.inj joined).symm⟩
  · rintro ⟨others, tested, further, rfl⟩
    exact ⟨tested, bind_ok_iff.mpr ⟨others, further, rfl⟩⟩

theorem mem_keep_iff (done : keep test list = .ok kept) :
    a ∈ kept ↔ a ∈ list ∧ test a = .ok true := by
  induction list generalizing kept with
  | nil => cases done; simp
  | cons b rest ih =>
    obtain ⟨passed, others, tested, further, rfl⟩ := keep_cons_eq_ok.mp done
    cases passed with
    | true =>
      simp only [if_true, List.mem_cons, ih further]
      grind
    | false =>
      simp only [Bool.false_eq_true, if_false, List.mem_cons, ih further]
      grind

theorem keep_sublist (done : keep test list = .ok kept) : kept.Sublist list := by
  induction list generalizing kept with
  | nil => cases done; exact .slnil
  | cons b rest ih =>
    obtain ⟨passed, others, _, further, rfl⟩ := keep_cons_eq_ok.mp done
    cases passed with
    | true => exact (ih further).cons_cons b
    | false => exact (ih further).cons b

theorem keep_total (answered : ∀ a ∈ list, ∃ b, test a = .ok b) : ∃ kept, keep test list = .ok kept := by
  induction list with
  | nil => exact ⟨[], rfl⟩
  | cons b rest ih =>
    obtain ⟨passed, tested⟩ := answered b (by simp)
    obtain ⟨others, further⟩ := ih fun a member => answered a (.tail _ member)
    exact ⟨_, keep_cons_eq_ok.mpr ⟨passed, others, tested, further, rfl⟩⟩

end Keep

variable {fs : FileSystem} {root real : Path} {ignored : Ignored} {s : Selection} {nested : Bool}
  {here parts : List Text} {entries : List (Text × Entry)} {content : Bytes}
  {files : List (List Text)} {m : Option Ignore.Matcher}

theorem anyIgnored_eq_ok_false_iff : anyIgnored ignored here parts = .ok false ↔
    ∀ r, r <+: parts → r ≠ [] → ignored (here ++ r) = .ok false := by
  induction parts generalizing here with
  | nil =>
    refine ⟨fun _ r within nonempty => ?_, fun _ => rfl⟩
    exact absurd (List.prefix_nil.mp within) nonempty
  | cons part rest ih =>
    rw [anyIgnored, bind_ok_iff]
    constructor
    · rintro ⟨first, asked, onward⟩ r within nonempty
      cases first with
      | true => cases onward
      | false =>
        obtain ⟨c, r, rfl⟩ := List.exists_cons_of_ne_nil nonempty
        obtain ⟨rfl, tail⟩ := List.cons_prefix_cons.mp within
        by_cases empty : r = []
        · simpa [empty] using asked
        · simpa using ih.mp onward r tail empty
    · intro unignored
      refine ⟨false, unignored [part] (by simp) (by simp), ih.mpr fun r within _ => ?_⟩
      simpa using unignored (part :: r) (by simpa using within) (by simp)

theorem anyIgnored_total
    (answered : ∀ r, r <+: parts → r ≠ [] → ∃ b, ignored (here ++ r) = .ok b) :
    ∃ b, anyIgnored ignored here parts = .ok b := by
  induction parts generalizing here with
  | nil => exact ⟨false, rfl⟩
  | cons part rest ih =>
    obtain ⟨first, asked⟩ := answered [part] (by simp) (by simp)
    cases first with
    | true => exact ⟨true, bind_ok_iff.mpr ⟨true, asked, rfl⟩⟩
    | false =>
      have below : ∀ r, r <+: rest → r ≠ [] → ∃ b, ignored (here ++ [part] ++ r) = .ok b := by
        intro r within _
        simpa using answered (part :: r) (by simpa using within) (by simp)
      obtain ⟨b, further⟩ := ih below
      exact ⟨b, bind_ok_iff.mpr ⟨false, asked, further⟩⟩

/-- Only below the root, not in its place, can there be a file. -/
theorem ne_nil_of_file (found : fs.find root = .ok ⟨real, .directory entries⟩)
    (below : fs.get? (real ++ parts) = some (.file content)) : parts ≠ [] := by
  rintro rfl
  obtain ⟨_, _, _, reached⟩ := FileSystem.find_eq_ok_iff.mp found
  rw [List.append_nil, reached] at below
  cases below

theorem isWithin_below (found : fs.find root = .ok ⟨real, .directory entries⟩)
    (below : fs.get? (real ++ parts) = some (.file content)) :
    isWithin fs root (root ++ parts) = .ok true := by
  have inner := fs.find_append found below (by simp)
  rw [isWithin, FileSystem.resolve?_of_find found (by simp),
    FileSystem.resolve?_of_find inner (by simp)]
  simp [Path.relativeTo?_append]

/-- What is asked about a file that the walk has found. That it is regular and really below the root needs
no asking any more. -/
theorem includes_below (found : fs.find root = .ok ⟨real, .directory entries⟩)
    (below : fs.get? (real ++ parts) = some (.file content)) :
    includes fs root ignored s (root ++ parts) =
      if s.extensions.contains (Path.suffix parts).lower = true ∧
          parts.dropLast.any isSkipped = false then
        (anyIgnored ignored [] parts).mapError Fault.ignore >>= fun b => .ok (!b && s.wants parts)
      else .ok false := by
  have nonempty := ne_nil_of_file found below
  have regular := (FileSystem.regular_iff found).mpr ⟨content, below⟩
  rw [includes, Path.suffix_append nonempty, regular.2.1,
    regular.2.2 parts (List.prefix_refl parts) nonempty, isWithin_below found below,
    Path.relativeTo?_append]
  cases s.extensions.contains (Path.suffix parts).lower with
  | false => rfl
  | true =>
    cases skipped : parts.dropLast.any isSkipped with
    | true => simp [skipped, bind, Except.bind, pure, Except.pure]
    | false =>
      cases asked : anyIgnored ignored [] parts with
      | error fault => simp [skipped, asked, bind, Except.bind]
      | ok b => cases b <;> simp [skipped, asked, bind, Except.bind, pure, Except.pure]

theorem includes_eq_ok_true_iff (found : fs.find root = .ok ⟨real, .directory entries⟩)
    (below : fs.get? (real ++ parts) = some (.file content)) :
    includes fs root ignored s (root ++ parts) = .ok true ↔
      (Path.suffix parts).lower ∈ s.extensions ∧ (∀ name ∈ parts.dropLast, isSkipped name = false) ∧
        anyIgnored ignored [] parts = .ok false ∧ s.wants parts = true := by
  rw [includes_below found below]
  split
  · rename_i looked
    simp only [List.contains_iff_mem, List.any_eq_false, Bool.not_eq_true] at looked
    simp only [bind_ok_iff, mapError_ok_iff, Except.ok.injEq, Bool.and_eq_true, Bool.not_eq_true']
    exact ⟨fun ⟨_, asked, kept, wanted⟩ => ⟨looked.1, looked.2, kept ▸ asked, wanted⟩,
      fun ⟨_, _, asked, wanted⟩ => ⟨false, asked, rfl, wanted⟩⟩
  · rename_i refused
    simp only [List.contains_iff_mem, List.any_eq_false, Bool.not_eq_true] at refused
    simp only [Except.ok.injEq, Bool.false_eq_true, false_iff]
    exact fun ⟨extension, unskipped, _⟩ => refused ⟨extension, unskipped⟩

theorem Selection.wants_iff : s.wants parts = true ↔
    (s.includePatterns = [] ∨
      ∃ pattern ∈ s.includePatterns, Glob.matchesText pattern (Path.relativeText parts) = true) ∧
    ∀ pattern ∈ s.excludePatterns, Glob.matchesText pattern (Path.relativeText parts) = false := by
  simp [Selection.wants]

theorem IsSource.regular (source : IsSource fs root ignored s parts)
    (found : fs.find root = .ok ⟨real, .directory entries⟩) :
    ∃ content, fs.get? (real ++ parts) = some (.file content) :=
  (FileSystem.regular_iff found).mp ⟨source.proper, source.file, source.unlinked⟩

/-- The source files are the files that a walk finds and that are then included. -/
theorem isSource_iff (found : fs.find root = .ok ⟨real, .directory entries⟩) :
    IsSource fs root ignored s parts ↔
      ((∃ content, fs.get? (real ++ parts) = some (.file content)) ∧ Kept ignored [] parts) ∧
        includes fs root ignored s.lowered (root ++ parts) = .ok true := by
  have skipped : ∀ name, isSkipped name = false ↔
      name ≠ ("node_modules" : Text) ∧ name ≠ (".git" : Text) := by
    simp [isSkipped, skippedNames]
  constructor
  · rintro ⟨proper, file, unlinked, unskipped, extension, unignored, included, unexcluded⟩
    obtain ⟨content, below⟩ := (FileSystem.regular_iff found).mp ⟨proper, file, unlinked⟩
    refine ⟨⟨⟨content, below⟩, ?_, ?_⟩, (includes_eq_ok_true_iff found below).mpr ⟨extension, ?_, ?_, ?_⟩⟩
    · exact fun name member => (skipped name).mpr (unskipped name member)
    · exact fun r within nonempty _ => unignored r within nonempty
    · exact fun name member => (skipped name).mpr (unskipped name member)
    · exact anyIgnored_eq_ok_false_iff.mpr unignored
    · exact Selection.wants_iff.mpr ⟨included, unexcluded⟩
  · rintro ⟨⟨⟨content, below⟩, _⟩, passed⟩
    obtain ⟨proper, file, unlinked⟩ := (FileSystem.regular_iff found).mpr ⟨content, below⟩
    obtain ⟨extension, unskipped, unignored, wanted⟩ := (includes_eq_ok_true_iff found below).mp passed
    obtain ⟨included, unexcluded⟩ := Selection.wants_iff.mp wanted
    exact ⟨proper, file, unlinked, fun name member => (skipped name).mp (unskipped name member),
      extension, anyIgnored_eq_ok_false_iff.mp unignored, included, unexcluded⟩

theorem sourceFiles_eq_ok : sourceFiles fs root s nested = .ok files ↔
    ∃ m candidates kept, matcher? fs root nested = .ok m ∧
      filesBelow fs root (ignoredBy m root) = .ok candidates ∧
      keep (fun parts => includes fs root (ignoredBy m root) s.lowered (root ++ parts)) candidates =
        .ok kept ∧ files = sorted kept := by
  simp only [sourceFiles, bind_ok_iff, mapError_ok_iff]
  constructor
  · rintro ⟨m, built, candidates, walked, kept, passed, same⟩
    exact ⟨m, candidates, kept, built, walked, passed, (Except.ok.inj same).symm⟩
  · rintro ⟨m, candidates, kept, built, walked, passed, rfl⟩
    exact ⟨m, built, candidates, walked, kept, passed, rfl⟩

theorem find_of_mem_sourceFiles (scanned : sourceFiles fs root s nested = .ok files)
    (member : parts ∈ files) : ∃ real entries, fs.find root = .ok ⟨real, .directory entries⟩ := by
  obtain ⟨m, candidates, kept, _, walked, passed, rfl⟩ := sourceFiles_eq_ok.mp scanned
  have candidate := (mem_keep_iff passed).mp (mem_sorted.mp member)
  unfold filesBelow FileSystem.list? at walked
  split at walked
  · cases walked
    cases candidate.1
  · rename_i listed
    split at listed
    · exact ⟨_, _, ‹_›⟩
    · cases listed

theorem mem_sourceFiles_iff (found : fs.find root = .ok ⟨real, .directory entries⟩)
    (built : matcher? fs root nested = .ok m) (scanned : sourceFiles fs root s nested = .ok files) :
    parts ∈ files ↔ IsSource fs root (ignoredBy m root) s parts := by
  obtain ⟨m, candidates, kept, same, walked, passed, rfl⟩ := sourceFiles_eq_ok.mp scanned
  cases built.symm.trans same
  rw [isSource_iff found, mem_sorted, mem_keep_iff passed, mem_filesBelow_iff found walked]

theorem isSource_of_mem (found : fs.find root = .ok ⟨real, .directory entries⟩)
    (scanned : sourceFiles fs root s nested = .ok files) (member : parts ∈ files) :
    ∃ ignored, IsSource fs root ignored s parts := by
  obtain ⟨m, _, _, built, _⟩ := sourceFiles_eq_ok.mp scanned
  exact ⟨_, (mem_sourceFiles_iff found built scanned).mp member⟩

/-- Files from a walk, once sorted, are strictly increasing. -/
theorem increasing_sorted_filesBelow {candidates kept : List (List Text)}
    (found : fs.find root = .ok ⟨real, .directory entries⟩)
    (walked : filesBelow fs root ignored = .ok candidates) (part : kept.Sublist candidates) :
    Increasing (sorted kept) := by
  refine increasing_sorted ((nodup_filesBelow found walked).sublist part) ?_
  intro p member
  obtain ⟨⟨content, below⟩, _⟩ := (mem_filesBelow_iff found walked p).mp (part.subset member)
  exact ⟨ne_nil_of_file found below, ((FileSystem.regular_iff found).mpr ⟨content, below⟩).1⟩

theorem increasing_sourceFiles (found : fs.find root = .ok ⟨real, .directory entries⟩)
    (scanned : sourceFiles fs root s nested = .ok files) : Increasing files := by
  obtain ⟨m, candidates, kept, _, walked, passed, rfl⟩ := sourceFiles_eq_ok.mp scanned
  exact increasing_sorted_filesBelow found walked (keep_sublist passed)

/-- The ignore files of a directory are always found. -/
theorem ignoreFiles_exact (found : fs.find root = .ok ⟨real, .directory entries⟩) :
    ∃ listed, ignoreFiles fs root = .ok listed ∧
      (∀ p, p ∈ listed ↔ ((∃ content, fs.get? (real ++ p) = some (.file content)) ∧
        Kept (fun _ => .ok false) [] p) ∧ p.getLast? = some ignoreFileName) ∧
      Increasing listed := by
  obtain ⟨all, walked⟩ : ∃ all, filesBelow fs root (fun _ => .ok false) = .ok all :=
    filesBelow_total found fun _ _ => ⟨false, rfl⟩
  refine ⟨_, bind_ok_iff.mpr ⟨all, walked, rfl⟩, fun p => ?_,
    increasing_sorted_filesBelow found walked List.filter_sublist⟩
  rw [mem_sorted, List.mem_filter, mem_filesBelow_iff found walked, decide_eq_true_iff]

/-- A scan comes to its end if the ignore files answer every question about a path of names. -/
theorem sourceFiles_total (found : fs.find root = .ok ⟨real, .directory entries⟩)
    (built : matcher? fs root nested = .ok m)
    (answered : ∀ names, (∀ name ∈ names, Entry.isName name = true) →
      ∃ b, ignoredBy m root names = .ok b) :
    ∃ files, sourceFiles fs root s nested = .ok files := by
  obtain ⟨candidates, walked⟩ := filesBelow_total found answered
  have tested : ∀ parts ∈ candidates, ∃ b,
      includes fs root (ignoredBy m root) s.lowered (root ++ parts) = .ok b := by
    intro parts member
    obtain ⟨⟨content, below⟩, _⟩ := (mem_filesBelow_iff found walked parts).mp member
    have proper := ((FileSystem.regular_iff found).mpr ⟨content, below⟩).1
    obtain ⟨b, asked⟩ : ∃ b, anyIgnored (ignoredBy m root) [] parts = .ok b :=
      anyIgnored_total fun r within _ =>
        answered r fun name inside => proper name (within.subset inside)
    rw [includes_below found below, asked]
    split
    · exact ⟨_, rfl⟩
    · exact ⟨false, rfl⟩
  obtain ⟨kept, passed⟩ := keep_total tested
  exact ⟨_, sourceFiles_eq_ok.mpr ⟨m, candidates, kept, built, walked, passed, rfl⟩⟩

/-- Exactness of a scan. Below every directory, if the ignore files can be read and answer every question,
the scan returns exactly the source files, each once and in strictly increasing order of their paths. -/
theorem sourceFiles_exact (directory : fs.isDirectory root = true)
    (built : matcher? fs root nested = .ok m)
    (answered : ∀ names, (∀ name ∈ names, Entry.isName name = true) →
      ∃ b, ignoredBy m root names = .ok b) :
    ∃ files, sourceFiles fs root s nested = .ok files ∧
      (∀ parts, parts ∈ files ↔ IsSource fs root (ignoredBy m root) s parts) ∧ files.Nodup ∧
      Increasing files := by
  obtain ⟨real, entries, found⟩ := FileSystem.isDirectory_iff.mp directory
  obtain ⟨files, scanned⟩ := sourceFiles_total (s := s) found built answered
  have increasing := increasing_sourceFiles found scanned
  exact ⟨files, scanned, fun parts => mem_sourceFiles_iff found built scanned,
    nodup_of_increasing increasing, increasing⟩

/-- A directory that holds ignored and skipped directories, a link to a file and one to itself. -/
def mixed : FileSystem where
  root := .directory [("work", .directory [
    (".gitignore", .file (Utf8.encode "gen/\n")),
    ("a.ts", .file []),
    ("gen", .directory [("x.js", .file [])]),
    ("lib", .directory [("b.JS", .file []), ("up.js", .link "../a.ts")]),
    ("loop", .link "loop"),
    ("node_modules", .directory [("c.js", .file [])])])]

theorem sourceFiles_exact_mixed : ∃ m, matcher? mixed ["work"] false = .ok m ∧
    (∀ names, (∀ name ∈ names, Entry.isName name = true) → ∃ b, ignoredBy m ["work"] names = .ok b) ∧
    ∃ files, sourceFiles mixed ["work"] {} false = .ok files ∧
      (∀ parts, parts ∈ files ↔ IsSource mixed ["work"] (ignoredBy m ["work"]) {} parts) ∧ files.Nodup ∧
      Increasing files := by
  obtain ⟨rules, built, place, readable⟩ : ∃ rules : Ignore.Rules,
      matcher? mixed ["work"] false = .ok (some (.single rules)) ∧ rules.directory = ["work"] ∧
        ∀ rule ∈ rules.list, rule.regex? ≠ none := ⟨_, rfl, rfl, by decide⟩
  have answered : ∀ names, (∀ name ∈ names, Entry.isName name = true) →
      ∃ b, ignoredBy (some (.single rules)) ["work"] names = .ok b := by
    intro names proper
    have answer : ∃ b, rules.ignores (rules.directory ++ names) = .ok b :=
      rules.ignores_below_total proper readable
    rwa [place] at answer
  exact ⟨_, built, answered, sourceFiles_exact (by decide) built answered⟩

end Scan
end ImportDepth
