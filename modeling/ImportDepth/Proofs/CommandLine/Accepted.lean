import ImportDepth.Proofs.CommandLine.Check
import ImportDepth.Proofs.Report.Containment

/-! What accepted configurations are safe from. A limit that is looked at only when a file is opened, and a
dialect that is looked up only then, could stop a run in its middle. Neither happens: an accepted limit is a
natural number, an override is one too, and the extensions that were accepted, the names of the files and the
table of the dialects are all compared in lower case. -/
namespace ImportDepth

variable {fs : FileSystem} {root : Path} {v : Value} {config : Config} {s : Scan.Selection}
  {maxDepth : Option Int} {nested : Bool} {parts : List Text} {files : List (List Text)}

theorem Config.extensions_withLimit : (config.withLimit maxDepth).extensions = config.extensions := by
  cases maxDepth <;> rfl

theorem Config.maxDepth_withLimit (valid : ∀ n, maxDepth = some n → 0 ≤ n) :
    ((config.withLimit maxDepth).maxDepth : Int) = maxDepth.getD config.maxDepth := by
  cases maxDepth with
  | none => rfl
  | some n => exact Int.toNat_of_nonneg (valid n rfl)

theorem Dialect.ofName?_name (dialect : Dialect) : ofName? dialect.name = some dialect := by
  cases dialect <;> decide

namespace SourceFile

/-- A file is linted under a dialect if it is opened under it, read, and has the findings of its content. -/
structure LintedAs (fs : FileSystem) (root : Path) (limit : Nat) (parts : List Text) (dialect : Dialect)
    (content : Bytes) : Prop where
  decided : Dialect.ofComponents? (root ++ parts) = some dialect
  read : fs.read? (root ++ parts) = some content
  linted : lintAt fs root (root ++ parts) (.int limit) =
    .ok (Source.lint ⟨limit⟩ (Path.relativeText parts) dialect content)

theorem lintedAs_of_mem (supported : ∀ e ∈ s.extensions, e ∈ Dialect.supportedExtensions)
    (scanned : Scan.sourceFiles fs root s nested = .ok files) (member : parts ∈ files) (limit : Nat) :
    ∃ dialect content, LintedAs fs root limit parts dialect content := by
  obtain ⟨dialect, decided⟩ := Scan.dialect_of_mem_sourceFiles supported scanned member
  obtain ⟨content, contained⟩ := isContained_of_mem scanned member
  obtain ⟨real, entries, _, found, below⟩ := Scan.regular_of_mem_sourceFiles scanned member
  refine ⟨dialect, content, ?_, contained.read, ?_⟩
  · rw [ofComponents?_below found below, decided]
  · rw [lintAt_of_mem scanned member, findingsAt, decided, contained.read]

/-- The files of a scan can be linted one after the other, whatever the limit. -/
theorem mapM_lintAt (scanned : Scan.sourceFiles fs root s nested = .ok files) (limit : Nat) :
    (files.mapM fun parts => lintAt fs root (root ++ parts) (.int limit)) =
      .ok (files.map (findingsAt fs root ⟨limit⟩)) := by
  rw [mapM_congr fun parts member => lintAt_of_mem scanned member limit]
  exact List.mapM_pure

end SourceFile

namespace CommandLine

/-- Accepted configurations are safe. The limit of a value that is accepted is the integer that its entry
stands for; under it, and under any limit on the command line that is not negative, all extensions are
supported, the rule takes the limit, and after every scan each file that is counted has a dialect, known by
its name, and is linted under it. What `check` loads was accepted, and is run under such a limit. -/
theorem accepted_runs (accepted : Config.ofValue v = .ok config)
    (valid : ∀ n, maxDepth = some n → 0 ≤ n) :
    (∃ entries, v = .table entries ∧
      Value.optional entries "max_depth" (DepthRule.defaultLimit : Int) Value.toInteger =
        .ok (config.maxDepth : Int)) ∧
    ((config.withLimit maxDepth).maxDepth : Int) = maxDepth.getD config.maxDepth ∧
    (∀ e ∈ (config.withLimit maxDepth).extensions, e ∈ Dialect.supportedExtensions) ∧
    DepthRule.limitOf (.int (config.withLimit maxDepth).maxDepth) =
      .ok (config.withLimit maxDepth).maxDepth ∧
    (∀ fs root files, Scan.sourceFiles fs root (config.withLimit maxDepth).selection
        (config.withLimit maxDepth).nestedIgnore = .ok files →
      (∀ parts ∈ files, ∃ dialect content,
        SourceFile.LintedAs fs root (config.withLimit maxDepth).maxDepth parts dialect content ∧
        Dialect.ofName? dialect.name = some dialect) ∧
      ∃ found, (files.mapM fun parts => SourceFile.lintAt fs root (root ++ parts)
          (.int (config.withLimit maxDepth).maxDepth)) = .ok found ∧
        Report.ofDirectory fs root (config.withLimit maxDepth) = .ok ⟨files.length, found.flatten⟩) ∧
    ∀ fs root loaded format, Config.load fs root = .ok loaded →
      (∃ value, Config.ofValue value = .ok loaded) ∧
        check fs root maxDepth format = checkWith fs root (loaded.withLimit maxDepth) format := by
  have supported : ∀ e ∈ (config.withLimit maxDepth).extensions, e ∈ Dialect.supportedExtensions := by
    rw [Config.extensions_withLimit]
    exact Config.ofValue_supported accepted
  refine ⟨?_, Config.maxDepth_withLimit valid, supported, rfl, ?_, ?_⟩
  · obtain ⟨entries, table, stated⟩ := Config.ofValue_eq_ok_iff.mp accepted
    exact ⟨entries, table, stated.integer⟩
  · intro fs root files scanned
    constructor
    · intro parts member
      obtain ⟨dialect, content, linted⟩ := SourceFile.lintedAs_of_mem supported scanned member _
      exact ⟨dialect, content, linted, dialect.ofName?_name⟩
    · exact ⟨_, SourceFile.mapM_lintAt scanned _, Report.ofDirectory_of_sourceFiles scanned⟩
  · intro fs root loaded format same
    exact ⟨Config.exists_ofValue_of_load same, check_of_loaded same valid⟩

def shouted : FileSystem where
  root := .directory [("A.JS", .file (Utf8.encode "import '../x';")), ("b.ts", .file [])]

theorem accepted_runs_shouted :
    Config.ofValue (.table [("max_depth", .bool true), ("extensions", .list [.text "JS", .text ".Tsx"])]) =
      .ok { maxDepth := 1, extensions := [".js", ".tsx"] } ∧
    Scan.sourceFiles shouted [] { extensions := [".js", ".tsx"] } false = .ok [["A.JS"]] ∧
    (∃ dialect content, SourceFile.LintedAs shouted [] 0 ["A.JS"] dialect content) ∧
    ∃ found, Report.ofDirectory shouted [] { maxDepth := 0, extensions := [".js", ".tsx"] } =
      .ok ⟨1, found⟩ := by
  have accepted : Config.ofValue (.table [("max_depth", .bool true),
      ("extensions", .list [.text "JS", .text ".Tsx"])]) =
        .ok { maxDepth := 1, extensions := [".js", ".tsx"] } := by decide +kernel
  have scanned : Scan.sourceFiles shouted [] { extensions := [".js", ".tsx"] } false =
      .ok [["A.JS"]] := by decide +kernel
  obtain ⟨_, _, _, _, runs, _⟩ := @accepted_runs _ _ (some 0) accepted (by simp)
  obtain ⟨linted, found, _, reported⟩ := runs shouted [] [["A.JS"]] scanned
  obtain ⟨dialect, content, known, _⟩ := linted ["A.JS"] List.mem_cons_self
  exact ⟨accepted, scanned, ⟨dialect, content, known⟩, _, reported⟩

end CommandLine
end ImportDepth
