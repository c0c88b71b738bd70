import ImportDepth.Proofs.CommandLine.Limit
import ImportDepth.Proofs.Digit

/-! What a message tells. The specifier stands in it as it was decoded, with quotes, parentheses or the wording
of a message in it, so nothing can be read off from the left. But the number near the end holds no parenthesis:
the last one that opens stands right before it, and what surrounds the specifier is then of known length. Hence
a message tells its specifier and its limit, and the messages of one run differ exactly where the specifiers do. -/
namespace ImportDepth

namespace Specifier

/-- A message as what stands before the last parenthesis that opens, and what stands behind it. -/
theorem message_eq (specifier : Text) (limit : Int) :
    message specifier limit =
      (("Import/export path \"" : Text) ++ specifier ++ ("\" must not exceed the maximum depth " : Text)) ++
        CodePoint.ofChar '(' :: (Text.ofInt limit ++ (" levels)" : Text)) := by
  have wording : ("\" must not exceed the maximum depth (" : Text) =
      ("\" must not exceed the maximum depth " : Text) ++ [CodePoint.ofChar '('] := by decide
  simp [message, wording]

/-- No parenthesis opens behind the last one. -/
theorem parenthesis_not_mem (limit : Int) :
    CodePoint.ofChar '(' ∉ Text.ofInt limit ++ (" levels)" : Text) := by
  rw [List.mem_append, not_or]
  exact ⟨Text.not_mem_ofInt (by decide) (by decide), by decide⟩

theorem message_inj {s t : Text} {l m : Int} : message s l = message t m ↔ s = t ∧ l = m := by
  constructor
  · intro same
    rw [message_eq, message_eq] at same
    obtain ⟨before, behind⟩ :=
      Text.eq_of_last_separator (parenthesis_not_mem l) (parenthesis_not_mem m) same
    have limits : l = m := Text.ofInt_injective (List.append_cancel_right behind)
    have specifiers : s = t := List.append_cancel_left (List.append_cancel_right before)
    exact ⟨specifiers, limits⟩
  · rintro ⟨rfl, rfl⟩
    rfl

end Specifier

namespace Finding

variable {limit : Nat} {s t : Text} {f g : Finding}

/-- Findings under one limit say the same exactly if they are about the same specifier. -/
theorem Tells.message_eq_iff (tells : f.Tells limit s) (tells' : g.Tells limit t) :
    f.message = g.message ↔ f.specifier = g.specifier := by
  rw [tells.message, tells'.message, tells.about, tells'.about, Specifier.message_inj]
  simp

end Finding

theorem DepthRule.tells_of_mem_findings {rule : DepthRule} {path : Text} {tree : Node} {found : List Finding}
    {f : Finding} (answer : rule.findings path tree = .ok found) (member : f ∈ found) :
    ∃ specifier, f.Tells rule.limit specifier := by
  obtain ⟨n, _, specifier, _, rfl⟩ := (mem_findings_iff rule path answer).mp member
  exact ⟨specifier, rfl, rfl⟩

namespace Report

/-- Messages identify what they report. A message tells its specifier, whatever stands in it, and its limit. So
within one run, over the trees of any files and over a directory, two findings say the same exactly if they are
about the same specifier. -/
theorem message_identifies :
    (∀ (s t : Text) (l m : Int), Specifier.message s l = Specifier.message t m → s = t ∧ l = m) ∧
    (∀ (rule : DepthRule) (path path' : Text) (tree tree' : Node) (found found' : List Finding),
      rule.findings path tree = .ok found → rule.findings path' tree' = .ok found' →
      ∀ f ∈ found, ∀ g ∈ found', (f.message = g.message ↔ f.specifier = g.specifier)) ∧
    ∀ (fs : FileSystem) (root : Path) (config : Config) (report : Report),
      ofDirectory fs root config = .ok report →
      ∀ f ∈ report.findings, ∀ g ∈ report.findings,
        (f.message = g.message ↔ f.specifier = g.specifier) := by
  refine ⟨fun s t l m => Specifier.message_inj.mp, ?_, ?_⟩
  · intro rule path path' tree tree' found found' answer answer' f member g member'
    obtain ⟨_, tells⟩ := DepthRule.tells_of_mem_findings answer member
    obtain ⟨_, tells'⟩ := DepthRule.tells_of_mem_findings answer' member'
    exact tells.message_eq_iff tells'
  · intro fs root config report reported f member g member'
    obtain ⟨_, tells⟩ := tells_of_mem reported member
    obtain ⟨_, tells'⟩ := tells_of_mem reported member'
    exact tells.message_eq_iff tells'

/-- A specifier that goes on like the message about the specifier which it begins with. -/
def imitation : Text := "../../../x\" must not exceed the maximum depth (2 levels)"

/-- A directory with one specifier in two files, and with one that imitates the message about it. -/
def imitated : FileSystem where
  root := .directory [
    ("a.js", .file (Utf8.encode (("import '../../../x'; import '" : Text) ++ imitation ++ ("';" : Text)))),
    ("b.js", .file (Utf8.encode "export * from '../../../x';"))]

theorem message_identifies_imitated :
    ∃ report f g h, ofDirectory imitated [] {} = .ok report ∧ report.findings = [f, g, h] ∧
      g.specifier = some imitation ∧ f.path ≠ h.path ∧ f.message = h.message ∧ f.message ≠ g.message := by
  have scanned : Scan.sourceFiles imitated [] ({} : Config).selection false = .ok [["a.js"], ["b.js"]] := by
    apply Scan.sourceFiles_eq_ok.mpr
    refine ⟨none, [["a.js"], ["b.js"]], [["a.js"], ["b.js"]], rfl, by decide +kernel, by decide +kernel, ?_⟩
    exact (List.mergeSort_of_pairwise (by decide)).symm
  have told : (([["a.js"], ["b.js"]] : List (List Text)).flatMap
      (SourceFile.findingsAt imitated [] ({} : Config).rule)).map (fun f => (f.path, f.specifier)) =
      ([("a.js", some "../../../x"), ("a.js", some imitation), ("b.js", some "../../../x")] :
        List (Text × Option Text)) := by decide +kernel
  have reported := @ofDirectory_of_sourceFiles imitated [] {} _ scanned
  generalize ([["a.js"], ["b.js"]] : List (List Text)).flatMap
    (SourceFile.findingsAt imitated [] ({} : Config).rule) = findings at told reported
  have three : findings.length = 3 := by simpa using congrArg List.length told
  obtain ⟨f, g, h, rfl⟩ := List.length_eq_three.mp three
  simp only [List.map_cons, List.map_nil, List.cons.injEq, Prod.mk.injEq, and_true] at told
  obtain ⟨⟨first, plain⟩, ⟨_, imitates⟩, third, again⟩ := told
  obtain ⟨_, _, identified⟩ := message_identifies
  have within := identified imitated [] {} _ reported
  refine ⟨_, f, g, h, reported, rfl, imitates, ?_, ?_, ?_⟩
  · rw [first, third]
    decide
  · exact (within f (by simp) h (by simp)).mpr (plain.trans again.symm)
  · apply mt (within f (by simp) g (by simp)).mp
    rw [plain, imitates]
    decide

end Report
end ImportDepth
