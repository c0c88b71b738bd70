import ImportDepth.Proofs.CommandLine.Check

/-! A larger limit finds less. Each file is looked at under both limits, and each node that exceeds the larger
one exceeds the smaller one too, so the findings under the larger limit are those under the smaller one whose
specifiers exceed the larger. Only what is said about them differs, because it names the limit. -/
namespace ImportDepth

namespace Finding

def unsaid (f : Finding) : Finding := { f with message := [] }

/-- A finding about a specifier that climbs more often than a limit allows. -/
def exceeds (limit : Nat) (f : Finding) : Bool :=
  f.specifier.any fun specifier => limit < Specifier.occurrences "../" specifier

/-- A finding about a specifier, whose message names this specifier and a limit. -/
structure Tells (limit : Nat) (specifier : Text) (f : Finding) : Prop where
  about : f.specifier = some specifier
  message : f.message = Specifier.message specifier limit

theorem exceeds_expected {path : Text} {a b : Nat} {n : Node} {specifier : Text} :
    (expected path a n specifier).exceeds b = true ↔ b < Specifier.occurrences "../" specifier := by
  simp [exceeds, expected]

end Finding

variable {fs : FileSystem} {root : Path} {rule : DepthRule} {config : Config} {a b : Nat} {path : Text}
  {parts : List Text} {files : List (List Text)} {f : Finding}

namespace DepthRule

theorem finding?_eq_none_iff (n : Node) :
    rule.finding? path n = none ↔ ∀ specifier, ¬ n.TooDeep rule.limit specifier := by
  simp only [Option.eq_none_iff_forall_ne_some, ne_eq, finding?_eq_some_iff]
  exact ⟨fun none specifier deep => none _ ⟨specifier, deep, rfl⟩,
    fun shallow f ⟨specifier, deep, _⟩ => shallow specifier deep⟩

/-- What is found at a node under the larger limit is what is found there under the smaller one, if it
exceeds the larger. -/
theorem finding?_unsaid (smaller : a ≤ b) (n : Node) :
    (DepthRule.finding? ⟨b⟩ path n).map Finding.unsaid =
      ((DepthRule.finding? ⟨a⟩ path n).filter (·.exceeds b)).map Finding.unsaid := by
  cases found : DepthRule.finding? ⟨a⟩ path n with
  | none =>
    have shallow := (finding?_eq_none_iff n).mp found
    have none : DepthRule.finding? ⟨b⟩ path n = none := by
      refine (finding?_eq_none_iff n).mpr fun specifier deep => shallow specifier ?_
      exact { deep with deep := Nat.lt_of_le_of_lt smaller deep.deep }
    rw [none]
    rfl
  | some f =>
    obtain ⟨specifier, deep, rfl⟩ := (finding?_eq_some_iff _ path n f).mp found
    by_cases exceeding : b < Specifier.occurrences "../" specifier
    · have further : DepthRule.finding? ⟨b⟩ path n = some (Finding.expected path b n specifier) :=
        (finding?_eq_some_iff _ path n _).mpr ⟨specifier, { deep with deep := exceeding }, rfl⟩
      rw [further, Option.filter, if_pos (Finding.exceeds_expected.mpr exceeding)]
      rfl
    · have none : DepthRule.finding? ⟨b⟩ path n = none := by
        refine (finding?_eq_none_iff n).mpr fun other deeper => exceeding ?_
        cases deep.known.symm.trans deeper.known
        exact deeper.deep
      rw [none, Option.filter, if_neg (mt Finding.exceeds_expected.mp exceeding)]

end DepthRule

theorem Source.lint_unsaid (smaller : a ≤ b) (dialect : Dialect) (content : Bytes) :
    (lint ⟨b⟩ path dialect content).map Finding.unsaid =
      ((lint ⟨a⟩ path dialect content).filter (·.exceeds b)).map Finding.unsaid := by
  simp only [lint_eq_filterMap, List.filter_filterMap, List.map_filterMap]
  exact List.filterMap_congr fun n _ => DepthRule.finding?_unsaid smaller n

namespace SourceFile

theorem findingsAt_unsaid (smaller : a ≤ b) (parts : List Text) :
    (findingsAt fs root ⟨b⟩ parts).map Finding.unsaid =
      ((findingsAt fs root ⟨a⟩ parts).filter (·.exceeds b)).map Finding.unsaid := by
  unfold findingsAt
  split
  · exact Source.lint_unsaid smaller _ _
  · rfl

theorem tells_of_mem_findingsAt (member : f ∈ findingsAt fs root rule parts) :
    ∃ specifier, f.Tells rule.limit specifier := by
  obtain ⟨_, _, _, _, n, _, specifier, _, rfl⟩ := mem_findingsAt_iff.mp member
  exact ⟨specifier, rfl, rfl⟩

end SourceFile

namespace Report

theorem tells_of_mem {report : Report} (reported : ofDirectory fs root config = .ok report)
    (member : f ∈ report.findings) : ∃ specifier, f.Tells config.maxDepth specifier := by
  obtain ⟨files, scanned, _⟩ := bind_ok_iff.mp reported
  cases reported.symm.trans (ofDirectory_of_sourceFiles scanned)
  obtain ⟨parts, _, found⟩ := List.mem_flatMap.mp member
  exact SourceFile.tells_of_mem_findingsAt found

/-- The reports under two limits: they count the same files, and the larger limit keeps of the findings those
that exceed it. -/
theorem ofDirectory_unsaid (smaller : a ≤ b)
    (scanned : Scan.sourceFiles fs root config.selection config.nestedIgnore = .ok files) :
    ∃ wide narrow, ofDirectory fs root { config with maxDepth := a } = .ok wide ∧
      ofDirectory fs root { config with maxDepth := b } = .ok narrow ∧
      narrow.filesChecked = wide.filesChecked ∧
      narrow.findings.map Finding.unsaid = (wide.findings.filter (·.exceeds b)).map Finding.unsaid := by
  have under : ∀ limit, ofDirectory fs root { config with maxDepth := limit } = .ok ⟨files.length,
      files.flatMap (SourceFile.findingsAt fs root ⟨limit⟩)⟩ := fun limit =>
    @ofDirectory_of_sourceFiles fs root { config with maxDepth := limit } files scanned
  refine ⟨_, _, under a, under b, rfl, ?_⟩
  simp only [List.map_flatMap, List.filter_flatMap]
  exact List.flatMap_congr fun parts _ => SourceFile.findingsAt_unsaid smaller parts

end Report

namespace CommandLine

variable {maxDepth : Option Int} {format : Format} {out : Output}

/-- A clean report stays as it is under a larger limit. -/
theorem checkWith_of_larger (smaller : a ≤ b) (clean : out.exitCode = 0)
    (passed : checkWith fs root { config with maxDepth := a } format = .ok out) :
    checkWith fs root { config with maxDepth := b } format = .ok out := by
  rcases checkWith_eq_ok passed with ⟨_, rfl⟩ | ⟨directory, report, text, reported, rendered, rfl⟩
  · cases clean
  · have ok : report.ok = true := by
      by_contra dirty
      simp [dirty] at clean
    obtain ⟨files, scanned, _⟩ := bind_ok_iff.mp reported
    obtain ⟨wide, narrow, same, further, counted, found⟩ := Report.ofDirectory_unsaid smaller scanned
    cases reported.symm.trans same
    have equal : narrow = report := by
      have none : report.findings = [] := List.isEmpty_iff.mp ok
      obtain ⟨checked, findings⟩ := narrow
      obtain ⟨checked', findings'⟩ := report
      simp_all
    rw [checkWith, directory, further, equal]
    exact bind_ok_iff.mpr ⟨report, rfl, bind_ok_iff.mpr ⟨text, rendered, rfl⟩⟩

/-- Whoever passes `check` under a limit passes it under every larger one, with the same answer. -/
theorem check_of_larger (loaded : Config.load fs root = .ok config)
    (smaller : (config.withLimit maxDepth).maxDepth ≤ b) (clean : out.exitCode = 0)
    (passed : check fs root maxDepth format = .ok out) : check fs root (some (b : Int)) format = .ok out := by
  have valid : ∀ n, maxDepth = some n → 0 ≤ n := by
    rintro n rfl
    cases n with
    | ofNat n => exact Int.natCast_nonneg n
    | negSucc n =>
      simp only [check, loaded, Except.ok.injEq] at passed
      rw [← passed] at clean
      cases clean
  rw [check_of_loaded loaded valid] at passed
  rw [check_of_loaded loaded (by simp)]
  cases maxDepth with
  | none => exact checkWith_of_larger smaller clean passed
  | some n => exact checkWith_of_larger smaller clean passed

/-- Limits are monotone over whole runs. Under two limits a directory gives reports on the same number of
files. Apart from what is said about them, the findings under the larger limit are, in the same order, those
findings under the smaller one whose specifiers climb more often than the larger limit allows; what is said
names the specifier and the limit of the run. A `check` that passes under the smaller limit passes under the
larger one, each of them given by the configuration or on the command line. -/
theorem report_antitone (smaller : a ≤ b)
    (scanned : Scan.sourceFiles fs root config.selection config.nestedIgnore = .ok files) :
    (∃ wide narrow, Report.ofDirectory fs root { config with maxDepth := a } = .ok wide ∧
      Report.ofDirectory fs root { config with maxDepth := b } = .ok narrow ∧
      narrow.filesChecked = wide.filesChecked ∧
      narrow.findings.map Finding.unsaid = (wide.findings.filter (·.exceeds b)).map Finding.unsaid ∧
      (narrow.findings.map Finding.unsaid).Sublist (wide.findings.map Finding.unsaid) ∧
      (∀ f ∈ wide.findings, ∃ specifier, f.Tells a specifier) ∧
      ∀ f ∈ narrow.findings, ∃ specifier, f.Tells b specifier) ∧
    ∀ maxDepth format out, Config.load fs root = .ok config → (config.withLimit maxDepth).maxDepth = a →
      check fs root maxDepth format = .ok out → out.exitCode = 0 →
        check fs root (some (b : Int)) format = .ok out ∧
          ∀ fs', SameButLimit root b fs fs' → Scans fs' root → check fs' root none format = .ok out := by
  obtain ⟨wide, narrow, reported, further, counted, found⟩ := Report.ofDirectory_unsaid smaller scanned
  refine ⟨⟨wide, narrow, reported, further, counted, found, ?_, fun f => Report.tells_of_mem reported,
    fun f => Report.tells_of_mem further⟩, fun maxDepth format out loaded limit passed clean => ?_⟩
  · rw [found]
    exact List.filter_sublist.map Finding.unsaid
  · have larger := check_of_larger loaded (limit ▸ smaller) clean passed
    have scans : Scans fs root := by
      intro other same
      cases loaded.symm.trans same
      exact ⟨files, scanned⟩
    exact ⟨larger, fun fs' same scans' => (same.check_eq scans scans').symm.trans larger⟩

def climbing : FileSystem where
  root := .directory [("a.js", .file (Utf8.encode "import '../x'; import '../../y';"))]

theorem report_antitone_climbing :
    0 ≤ 1 ∧ Scan.sourceFiles climbing [] ({} : Config).selection false = .ok [["a.js"]] ∧
    ∃ wide narrow, Report.ofDirectory climbing [] { maxDepth := 0 } = .ok wide ∧
      Report.ofDirectory climbing [] { maxDepth := 1 } = .ok narrow ∧
      wide.findings.length = 2 ∧ narrow.findings.length = 1 ∧ narrow.filesChecked = wide.filesChecked ∧
      narrow.findings.map Finding.unsaid = (wide.findings.filter (·.exceeds 1)).map Finding.unsaid ∧
      (∀ f ∈ wide.findings, ∃ specifier, f.Tells 0 specifier) ∧
      ∀ f ∈ narrow.findings, ∃ specifier, f.Tells 1 specifier := by
  have scanned : Scan.sourceFiles climbing [] ({} : Config).selection false = .ok [["a.js"]] := by
    decide +kernel
  have two : (Report.ofDirectory climbing [] { maxDepth := 0 }).map (·.findings.length) = .ok 2 := by
    decide +kernel
  have one : (Report.ofDirectory climbing [] { maxDepth := 1 }).map (·.findings.length) = .ok 1 := by
    decide +kernel
  obtain ⟨⟨wide, narrow, reported, further, counted, found, _, told, told'⟩, _⟩ :=
    @report_antitone climbing [] {} 0 1 [["a.js"]] (Nat.zero_le 1) scanned
  rw [reported] at two
  rw [further] at one
  exact ⟨Nat.zero_le 1, scanned, wide, narrow, reported, further, Except.ok.inj two, Except.ok.inj one,
    counted, found, told, told'⟩

end CommandLine
end ImportDepth
