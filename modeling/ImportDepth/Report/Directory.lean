import ImportDepth.Config
import ImportDepth.Report.Basic
import ImportDepth.SourceFile

/-! The report on a directory: what the rule finds in each of its source files, one file after the
other in the order of their paths. -/
namespace ImportDepth

namespace Config

def rule (config : Config) : DepthRule := ⟨config.maxDepth⟩

def selection (config : Config) : Scan.Selection :=
  ⟨config.extensions, config.includePatterns, config.excludePatterns⟩

end Config

namespace Report

def add (r : Report) (findings : List Finding) : Report :=
  ⟨r.filesChecked + 1, r.findings ++ findings⟩

def addFiles (fs : FileSystem) (root : Path) (rule : DepthRule) (r : Report) :
    List (List Text) → Except Scan.Fault Report
  | [] => .ok r
  | parts :: rest => do
    let file? ← SourceFile.open? fs root (root ++ parts)
    addFiles fs root rule (r.add ((file?.map (·.lint rule)).getD [])) rest

/-- The report on all source files below a root that a configuration selects. -/
def ofDirectory (fs : FileSystem) (root : Path) (config : Config) : Except Scan.Fault Report := do
  addFiles fs root config.rule {} (← Scan.sourceFiles fs root config.selection config.nestedIgnore)

end Report
end ImportDepth
