import ImportDepth.CommandLine.Run
import ImportDepth.Proofs.Config
import ImportDepth.Proofs.Report

/-! What `check` answers in text form. It refuses requests that cannot be carried out and reports on all
others, under the limit of the command line or else of the configuration. Only an integer with too many
digits in the configuration file leaves it without an answer. -/
namespace ImportDepth

def Config.withLimit (config : Config) : Option Int → Config
  | none => config
  | some n => { config with maxDepth := n.toNat }

namespace CommandLine

def Scans (fs : FileSystem) (root : Path) : Prop :=
  ∀ config, Config.load fs root = .ok config →
    ∃ files, Scan.sourceFiles fs root config.selection config.nestedIgnore = .ok files

/-- Two file systems in which a directory has the same configuration but for the limit. They hold the same
except for one file, which no scan for sources notices. -/
structure SameButLimit (root : Path) (n : Nat) (fs fs' : FileSystem) : Prop where
  configs : ∃ config, Config.load fs root = .ok config ∧
    Config.load fs' root = .ok { config with maxDepth := n }
  file : ∃ f, Scan.Unnoticed root Dialect.supportedExtensions f fs fs'

variable {fs fs' : FileSystem} {root real : Path} {maxDepth : Option Int} {format : Format}
  {config : Config} {files others : List (List Text)} {entries : List (Text × Entry)} {said : Text}

theorem selection_withLimit : (config.withLimit maxDepth).selection = config.selection := by
  cases maxDepth <;> rfl

theorem nestedIgnore_withLimit : (config.withLimit maxDepth).nestedIgnore = config.nestedIgnore := by
  cases maxDepth <;> rfl

theorem check_of_loaded (loaded : Config.load fs root = .ok config)
    (valid : ∀ n, maxDepth = some n → 0 ≤ n) :
    check fs root maxDepth format = checkWith fs root (config.withLimit maxDepth) format := by
  rw [check, loaded]
  cases maxDepth with
  | none => rfl
  | some n =>
    cases n with
    | ofNat n => rfl
    | negSucc n => exact absurd (valid _ rfl) (by omega)

theorem checkWith_of_no_directory (missing : fs.isDirectory root = false) :
    checkWith fs root config format = .ok (refusal ("not a directory: " ++ root.text)) := by
  rw [checkWith, missing]
  rfl

/-- An answer under a configuration is a refusal or comes from the report on a directory. -/
theorem checkWith_eq_ok {out : Output} (answered : checkWith fs root config format = .ok out) :
    (fs.isDirectory root = false ∧ out = refusal ("not a directory: " ++ root.text)) ∨
      fs.isDirectory root = true ∧ ∃ report text, Report.ofDirectory fs root config = .ok report ∧
        render format report = .ok text ∧ out = ⟨if report.ok then 0 else 1, text, []⟩ := by
  cases directory : fs.isDirectory root with
  | false =>
    rw [checkWith_of_no_directory directory] at answered
    exact .inl ⟨rfl, (Except.ok.inj answered).symm⟩
  | true =>
    rw [checkWith, directory] at answered
    obtain ⟨report, reported, answered⟩ := bind_ok_iff.mp answered
    obtain ⟨text, rendered, same⟩ := bind_ok_iff.mp answered
    exact .inr ⟨rfl, report, text, mapError_ok_iff.mp reported, rendered, (Except.ok.inj same).symm⟩

/-- Around a change that the scan does not notice, the answers under one configuration are the same. -/
theorem checkWith_eq {f : Path} (change : Scan.Unnoticed root config.extensions f fs fs')
    (scanned : Scan.sourceFiles fs root config.selection config.nestedIgnore = .ok files)
    (scanned' : Scan.sourceFiles fs' root config.selection config.nestedIgnore = .ok others) :
    checkWith fs root config format = checkWith fs' root config format := by
  cases directory : fs.isDirectory root with
  | false =>
    have missing : fs'.isDirectory root = false := by rw [← change.differ.isDirectory_eq, directory]
    rw [checkWith_of_no_directory directory, checkWith_of_no_directory missing]
  | true =>
    obtain ⟨real, entries, found⟩ := FileSystem.isDirectory_iff.mp directory
    rw [checkWith, checkWith, ← change.differ.isDirectory_eq,
      Report.ofDirectory_eq_of_unnoticed change found scanned scanned']

theorem SameButLimit.check_eq {n : Nat} (same : SameButLimit root n fs fs')
    (scans : Scans fs root) (scans' : Scans fs' root) :
    check fs root (some n) format = check fs' root none format := by
  obtain ⟨config, loaded, loaded'⟩ := same.configs
  obtain ⟨f, change⟩ := same.file
  obtain ⟨files, scanned⟩ := scans _ loaded
  obtain ⟨others, scanned'⟩ := scans' _ loaded'
  have selected : Scan.Unnoticed root config.extensions f fs fs' :=
    change.mono (Config.load_supported loaded)
  rw [check_of_loaded loaded (by simp), check_of_loaded loaded' (by simp)]
  exact checkWith_eq selected scanned scanned'

def configured (content : Bytes) : FileSystem where
  root := .directory [("depthlint.toml", .file content), ("a.js", .file (Utf8.encode "import '../x';"))]
  wellFormed := by rfl

def strict : FileSystem := configured (Utf8.encode "max_depth = 0\n")

end CommandLine
end ImportDepth
