import ImportDepth.Json.Writer
import ImportDepth.Report.Basic

/-! Reports as text for people and as JSON for programs. -/
namespace ImportDepth

namespace Finding

def textLine (f : Finding) : Text := f.location ++ "  " ++ f.rule ++ "  " ++ f.message

def toValue (f : Finding) : Value :=
  .table [("col", .int f.col), ("end_col", .int f.endCol), ("end_line", .int f.endLine),
    ("line", .int f.line), ("message", .text f.message), ("path", .text f.path),
    ("rule", .text f.rule),
    ("specifier", match f.specifier with
      | some s => .text s
      | none => .null)]

end Finding

namespace Report

def summary (r : Report) : Text :=
  let count := r.findings.length
  Text.ofNat count ++ (if count = 1 then " problem in " else " problems in ") ++
    Text.ofInt r.filesChecked ++ " files checked"

/-- One line for each finding and the summary. -/
def renderText (r : Report) : Text :=
  Text.join "\n" (r.findings.map Finding.textLine ++ [r.summary]) ++ "\n"

def toValue (r : Report) : Value :=
  .table [("files_checked", .int r.filesChecked), ("findings", .list (r.findings.map (·.toValue))),
    ("ok", .bool r.ok)]

def renderJson (r : Report) : Except Json.Unwritable Text :=
  (Json.write r.toValue).map (· ++ "\n")

end Report
end ImportDepth
