import ImportDepth.Data.Validation
import ImportDepth.Finding

/-! The result of a run: how many files were looked at and what was found in them. -/
namespace ImportDepth

structure Report where
  filesChecked : Int := 0
  findings : List Finding := []
  deriving DecidableEq

namespace Report

def ok (r : Report) : Bool := r.findings.isEmpty

end Report

/-- The finding that a value states. Only the specifier may be left out or null. -/
def Finding.ofValue : Value → Checked Finding
  | .table entries =>
    let specifier : Value → Checked (Option Text)
      | .null => .ok none
      | v => v.toText.map some
    let parts :=
      Checked.both (Value.required entries "path" Value.toText) <|
      Checked.both (Value.required entries "line" Value.toInteger) <|
      Checked.both (Value.required entries "col" Value.toInteger) <|
      Checked.both (Value.required entries "end_line" Value.toInteger) <|
      Checked.both (Value.required entries "end_col" Value.toInteger) <|
      Checked.both (Value.required entries "rule" Value.toText) <|
      Checked.both (Value.optional entries "specifier" none specifier)
        (Value.required entries "message" Value.toText)
    parts.map fun (path, line, col, endLine, endCol, rule, specifier, message) =>
      ⟨path, line, col, endLine, endCol, rule, specifier, message⟩
  | _ => Checked.reject .notTable

/-- The report that a table states. Unknown keys are ignored. -/
def Report.ofEntries (entries : List (Text × Value)) : Checked Report :=
  (Checked.both (Value.optional entries "files_checked" 0 Value.toInteger)
    (Value.optional entries "findings" [] (Value.toListOf Finding.ofValue))).map
      fun (filesChecked, findings) => ⟨filesChecked, findings⟩

end ImportDepth
