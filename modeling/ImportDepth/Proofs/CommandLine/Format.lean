import ImportDepth.Proofs.CommandLine.Limit
import ImportDepth.Proofs.Literal
import ImportDepth.Proofs.Report.Json

/-! The same report in two formats. Every report has a text form. It has a JSON form unless it names a file
or a specifier that holds a surrogate, or counts beyond 64 bits; a specifier holds a surrogate exactly if an
escape in its string literal spells one. -/
namespace ImportDepth

structure Node.Representable (n : Node) : Prop where
  place : ∀ k ∈ [n.span.start.row, n.span.start.col, n.span.stop.row, n.span.stop.col], k + 1 < UInt64.size
  specifier : ∀ spelled ∈ n.specifierNode?, ∀ piece ∈ spelled.namedChildren, ¬ piece.IsSurrogateEscape

instance (n : Node) : Decidable n.Representable :=
  decidable_of_iff ((∀ k ∈ [n.span.start.row, n.span.start.col, n.span.stop.row, n.span.stop.col],
      k + 1 < UInt64.size) ∧ ∀ spelled ∈ n.specifierNode?, ∀ piece ∈ spelled.namedChildren,
        ¬ piece.IsSurrogateEscape)
    ⟨fun ⟨place, specifier⟩ => ⟨place, specifier⟩, fun ⟨place, specifier⟩ => ⟨place, specifier⟩⟩

/-- What is told about some files below a root has a JSON form. -/
structure Representable (fs : FileSystem) (root : Path) (limit : Nat) (files : List (List Text)) : Prop where
  count : files.length < UInt64.size
  findings : ∀ parts ∈ files, ∀ dialect content, Dialect.ofComponents? parts = some dialect →
    fs.read? (root ++ parts) = some content →
    ∀ n ∈ (Source.parse dialect content).preorder, (∃ specifier, n.TooDeep limit specifier) →
      (∀ name ∈ parts, name.IsScalar) ∧ n.Representable

variable {fs : FileSystem} {root : Path} {limit : Nat} {path specifier : Text} {n : Node} {f : Finding}
  {parts : List Text} {files : List (List Text)} {config : Config}

theorem Path.relativeText_isScalar_iff :
    (relativeText parts).IsScalar ↔ ∀ name ∈ parts, name.IsScalar := by
  cases parts with
  | nil => exact iff_of_true (Text.IsScalar.ofString ".") (by simp)
  | cons part rest => exact Text.IsScalar.join_iff (Text.IsScalar.ofString "/")

theorem Specifier.message_isScalar_iff {limit : Int} :
    (message specifier limit).IsScalar ↔ specifier.IsScalar := by
  simp [message, Text.IsScalar.append_iff, Text.IsScalar.ofString, Text.IsScalar.ofInt]

theorem Json.fits_natCast_iff {k : Nat} : fits k = true ↔ k < UInt64.size := by
  simp only [fits, UInt64.size, Bool.and_eq_true, decide_eq_true_eq]
  omega

theorem Json.fits_succ_iff {k : Nat} : fits (k + 1) = true ↔ k + 1 < UInt64.size :=
  fits_natCast_iff (k := k + 1)

/-- A finding has a JSON form if its file and its node let it have one. -/
theorem Finding.writable_expected_iff (deep : n.TooDeep limit specifier) :
    (expected path limit n specifier).Writable ↔ path.IsScalar ∧ n.Representable := by
  obtain ⟨written, spelled, literal⟩ := deep.spelled
  have scalar := Node.literal_isScalar_iff literal
  have places : (∀ k ∈ [(expected path limit n specifier).line, (expected path limit n specifier).col,
      (expected path limit n specifier).endLine, (expected path limit n specifier).endCol],
        Json.fits k = true) ↔
      ∀ k ∈ [n.span.start.row, n.span.start.col, n.span.stop.row, n.span.stop.col], k + 1 < UInt64.size := by
    simp only [expected, List.forall_mem_cons, Json.fits_succ_iff, List.not_mem_nil, false_implies,
      implies_true]
  constructor
  · intro writable
    refine ⟨writable.texts path (by simp [expected]), places.mp writable.numbers, ?_⟩
    · intro node found
      cases spelled.symm.trans found
      exact scalar.mp (writable.specifier specifier rfl)
  · rintro ⟨named, place, unescaped⟩
    have specified : specifier.IsScalar := scalar.mpr (unescaped written spelled)
    refine ⟨places.mpr place, ?_, ?_⟩
    · intro t member
      simp only [expected, List.mem_cons, List.not_mem_nil, or_false] at member
      rcases member with rfl | rfl | rfl
      · exact named
      · exact Text.IsScalar.ofString _
      · exact Specifier.message_isScalar_iff.mpr specified
    · intro t same
      cases same
      exact specified

namespace Report

/-- The report on some files has a JSON form exactly if what it tells about them has one. -/
theorem writable_iff : Writable ⟨files.length, files.flatMap (SourceFile.findingsAt fs root ⟨limit⟩)⟩ ↔
    Representable fs root limit files := by
  constructor
  · rintro ⟨count, findings⟩
    refine ⟨Json.fits_natCast_iff.mp count, ?_⟩
    · rintro parts member dialect content decided read n inside ⟨specifier, deep⟩
      have found : Finding.expected (Path.relativeText parts) limit n specifier ∈
          SourceFile.findingsAt fs root ⟨limit⟩ parts :=
        SourceFile.mem_findingsAt_iff.mpr ⟨dialect, content, decided, read, n, inside, specifier, deep, rfl⟩
      have writable := findings _ (List.mem_flatMap.mpr ⟨parts, member, found⟩)
      rw [Finding.writable_expected_iff deep, Path.relativeText_isScalar_iff] at writable
      exact writable
  · rintro ⟨count, findings⟩
    refine ⟨Json.fits_natCast_iff.mpr count, ?_⟩
    · intro f found
      obtain ⟨parts, member, found⟩ := List.mem_flatMap.mp found
      obtain ⟨dialect, content, decided, read, n, inside, specifier, deep, rfl⟩ :=
        SourceFile.mem_findingsAt_iff.mp found
      rw [Finding.writable_expected_iff deep, Path.relativeText_isScalar_iff]
      exact findings parts member dialect content decided read n inside ⟨specifier, deep⟩

end Report

namespace CommandLine

variable {maxDepth : Option Int} {out : Output}

/-- What is refused in one format is refused in the other. Anything else is a report. -/
theorem check_text_cases (answered : check fs root maxDepth .text = .ok out) :
    (out.exitCode = 2 ∧ check fs root maxDepth .json = .ok out) ∨
    ∃ config files report, Config.load fs root = .ok config ∧
      Scan.sourceFiles fs root config.selection config.nestedIgnore = .ok files ∧
      Report.ofDirectory fs root (config.withLimit maxDepth) = .ok report ∧
      out = ⟨if report.ok then 0 else 1, report.renderText, []⟩ ∧
      check fs root maxDepth .json =
        (report.renderJson.mapError .unwritable).map fun text => ⟨out.exitCode, text, []⟩ := by
  cases loaded : Config.load fs root with
  | error error =>
    left
    rw [check, loaded] at answered ⊢
    dsimp only at answered ⊢
    split at answered
    · cases answered
      exact ⟨rfl, rfl⟩
    · cases answered
  | ok config =>
    by_cases valid : ∀ n, maxDepth = some n → 0 ≤ n
    · rw [check_of_loaded loaded valid] at answered ⊢
      rcases checkWith_eq_ok answered with ⟨missing, rfl⟩ | ⟨directory, report, text, reported, rendered, rfl⟩
      · left
        exact ⟨rfl, checkWith_of_no_directory missing⟩
      · right
        obtain ⟨files, scanned, _⟩ := bind_ok_iff.mp reported
        rw [selection_withLimit, nestedIgnore_withLimit] at scanned
        cases rendered
        refine ⟨config, files, report, rfl, scanned, reported, rfl, ?_⟩
        rw [checkWith, directory, reported]
        rfl
    · left
      obtain ⟨n, rfl, negative⟩ : ∃ n, maxDepth = some n ∧ n < 0 := by simpa using valid
      cases n with
      | ofNat n => exact absurd negative (by simp)
      | negSucc n =>
        simp only [check, loaded] at answered ⊢
        cases answered
        exact ⟨rfl, rfl⟩

/-- The formats of one request. A request that is refused in text form is refused in the same words in JSON.
A report in text form comes with the same exit code in JSON, which gives back all that the report holds, if
what is told about the files has a JSON form; and if it has none, the request in JSON has no answer. -/
theorem check_json_exact (answered : check fs root maxDepth .text = .ok out) :
    (out.exitCode = 2 ∧ check fs root maxDepth .json = .ok out) ∨
    ∃ config files report, Config.load fs root = .ok config ∧
      Scan.sourceFiles fs root config.selection config.nestedIgnore = .ok files ∧
      Report.ofDirectory fs root (config.withLimit maxDepth) = .ok report ∧
      out = ⟨if report.ok then 0 else 1, report.renderText, []⟩ ∧
      (Representable fs root (config.withLimit maxDepth).maxDepth files →
        ∃ text, check fs root maxDepth .json = .ok ⟨out.exitCode, text, []⟩ ∧
          Json.read? text = some report.toValue) ∧
      (¬ Representable fs root (config.withLimit maxDepth).maxDepth files →
        ∃ reason, check fs root maxDepth .json = .error (.unwritable reason)) := by
  rcases check_text_cases answered with refused |
    ⟨config, files, report, loaded, scanned, reported, same, json⟩
  · exact .inl refused
  · right
    have limited : Scan.sourceFiles fs root (config.withLimit maxDepth).selection
        (config.withLimit maxDepth).nestedIgnore = .ok files := by
      rwa [selection_withLimit, nestedIgnore_withLimit]
    have writable : report.Writable ↔ Representable fs root (config.withLimit maxDepth).maxDepth files := by
      cases reported.symm.trans (Report.ofDirectory_of_sourceFiles limited)
      exact Report.writable_iff
    refine ⟨config, files, report, loaded, scanned, reported, same, ?_, ?_⟩
    · intro representable
      obtain ⟨text, rendered, back⟩ := Report.renderJson_of_writable (writable.mpr representable)
      refine ⟨text, ?_, back⟩
      rw [json, rendered]
      rfl
    · intro unrepresentable
      obtain ⟨reason, failed⟩ := Report.renderJson_of_not_writable (mt writable.mp unrepresentable)
      refine ⟨reason, ?_⟩
      rw [json, failed]
      rfl

def halfPair : FileSystem where
  root := .directory [("a.js", .file (Utf8.encode "import '../../../\\ud800';"))]

theorem representable_climbing : Representable climbing [] 0 [["a.js"]] := by
  have script : Dialect.ofComponents? ["a.js"] = some .javascript := by decide
  have held : climbing.read? ["a.js"] = some (Utf8.encode "import '../x'; import '../../y';") := rfl
  have told : ∀ n ∈ (Source.parse .javascript (Utf8.encode "import '../x'; import '../../y';")).preorder,
      (∃ specifier, n.TooDeep 0 specifier) → n.Representable := by decide +kernel
  refine ⟨by decide, ?_⟩
  intro parts member dialect content decided read n inside deep
  cases List.mem_singleton.mp member
  cases script.symm.trans decided
  cases held.symm.trans read
  exact ⟨by decide, told n inside deep⟩

theorem not_representable_halfPair : ¬ Representable halfPair [] 2 [["a.js"]] := by
  intro representable
  have script : Dialect.ofComponents? ["a.js"] = some .javascript := by decide
  have held : halfPair.read? ["a.js"] = some (Utf8.encode "import '../../../\\ud800';") := rfl
  have spelled : ∃ n ∈ (Source.parse .javascript (Utf8.encode "import '../../../\\ud800';")).preorder,
      (∃ specifier, n.TooDeep 2 specifier) ∧ ¬ n.Representable := by decide +kernel
  obtain ⟨n, inside, deep, surrogate⟩ := spelled
  have told := representable.findings ["a.js"] List.mem_cons_self .javascript _ script held n inside deep
  exact surrogate told.2

theorem exists_of_exitCode {answer : Except Failure Output} {code : Nat}
    (left : answer.toOption.map (·.exitCode) = some code) :
    ∃ out, answer = .ok out ∧ out.exitCode = code := by
  cases answer with
  | error failure => cases left
  | ok out => exact ⟨out, rfl, Option.some.inj left⟩

theorem check_json_exact_halfPair :
    (∃ out text, ∃ report : Report, check climbing [] (some 0) .text = .ok out ∧ out.exitCode = 1 ∧
      Representable climbing [] 0 [["a.js"]] ∧ check climbing [] (some 0) .json = .ok ⟨1, text, []⟩ ∧
      out.stdout = report.renderText ∧ Json.read? text = some report.toValue) ∧
    ∃ out reason, check halfPair [] none .text = .ok out ∧ out.exitCode = 1 ∧
      ¬ Representable halfPair [] 2 [["a.js"]] ∧
      check halfPair [] none .json = .error (.unwritable reason) := by
  have found : (check climbing [] (some 0) .text).toOption.map (·.exitCode) = some 1 := by decide +kernel
  have found' : (check halfPair [] none .text).toOption.map (·.exitCode) = some 1 := by decide +kernel
  have loaded : Config.load climbing [] = .ok {} := rfl
  have loaded' : Config.load halfPair [] = .ok {} := rfl
  have scanned : Scan.sourceFiles climbing [] ({} : Config).selection false = .ok [["a.js"]] := by
    decide +kernel
  have scanned' : Scan.sourceFiles halfPair [] ({} : Config).selection false = .ok [["a.js"]] := by
    decide +kernel
  constructor
  · obtain ⟨out, answered, code⟩ := exists_of_exitCode found
    rcases check_json_exact answered with ⟨refused, _⟩ |
      ⟨config, files, report, same, listed, _, told, readable, _⟩
    · cases code.symm.trans refused
    · cases loaded.symm.trans same
      cases scanned.symm.trans listed
      obtain ⟨text, json, back⟩ := readable representable_climbing
      rw [code] at json
      exact ⟨out, text, report, answered, code, representable_climbing, json, by rw [told], back⟩
  · obtain ⟨out, answered, code⟩ := exists_of_exitCode found'
    rcases check_json_exact answered with ⟨refused, _⟩ |
      ⟨config, files, report, same, listed, _, _, _, unreadable⟩
    · cases code.symm.trans refused
    · cases loaded'.symm.trans same
      cases scanned'.symm.trans listed
      obtain ⟨reason, json⟩ := unreadable not_representable_halfPair
      exact ⟨out, reason, answered, code, not_representable_halfPair, json⟩

end CommandLine
end ImportDepth
