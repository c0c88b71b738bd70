import ImportDepth.CommandLine.Run
import ImportDepth.FileSystem.Snapshot
import ImportDepth.Json.Reader

/-! The command. It touches no files itself: a line of JSON on standard input holds the file system
under `files` and the working directory under `directory`, and the answer goes to the two outputs. -/
namespace ImportDepth.CommandLine

def Failure.message : Failure → Text
  | config .notText => "the configuration file is not UTF-8"
  | config _ => "the configuration file holds a number that is too long"
  | scan (.ignore .notText) => "an ignore file is not UTF-8"
  | scan (.ignore _) => "an ignore file holds a pattern that cannot be used"
  | scan .circularLink => "links run in circles"
  | unwritable reason => reason.message

/-- The working directory and the file system that a line of input states. -/
def environment? (line : String) : Option (Path × FileSystem) := do
  match ← Json.read? (Text.ofString line) with
  | .table entries =>
    let fs ← FileSystem.ofValue? (← entries.lookup ("files" : Text))
    match ← entries.lookup ("directory" : Text) with
    | .text directory => some (Path.components directory, fs)
    | _ => none
  | _ => none

def answer (arguments : List String) (line : String) : Output :=
  match environment? line with
  | none => refusal "the file system cannot be read"
  | some (directory, fs) =>
    match run fs directory (arguments.map Text.ofString) with
    | .ok output => output
    | .error failure => ⟨1, [], "error: " ++ failure.message ++ "\n"⟩

end ImportDepth.CommandLine

def main (arguments : List String) : IO UInt32 := do
  let line ← (← IO.getStdin).getLine
  let output := ImportDepth.CommandLine.answer arguments line
  (← IO.getStdout).putStr output.stdout.toString
  (← IO.getStderr).putStr output.stderr.toString
  return output.exitCode.toUInt32
