import ImportDepth.CommandLine.Request
import ImportDepth.Config.File
import ImportDepth.Report.Directory
import ImportDepth.Report.Render

/-! What the program does: it answers a command line with an exit code and two texts. The code is zero
without findings, one with findings, and two if the request could not be carried out. -/
namespace ImportDepth.CommandLine

structure Output where
  exitCode : Nat
  stdout : Text := []
  stderr : Text := []
  deriving DecidableEq

inductive Failure where
  | config (error : Config.LoadError)
  | scan (fault : Scan.Fault)
  | unwritable (reason : Json.Unwritable)

def refusal (said : Text) : Output := ⟨2, [], "error: " ++ said ++ "\n"⟩

def Stop.output : Stop → Output
  | help topic => ⟨0, topic.usage ++ topic.details, []⟩
  | misuse topic m => ⟨2, [], topic.usage ++ topic.name ++ ": error: " ++ m.message ++ "\n"⟩

def render (format : Format) (report : Report) : Except Failure Text :=
  match format with
  | .text => .ok report.renderText
  | .json => report.renderJson.mapError .unwritable

def checkWith (fs : FileSystem) (root : Path) (config : Config) (format : Format) :
    Except Failure Output := do
  if !fs.isDirectory root then return refusal ("not a directory: " ++ root.text)
  let report ← (Report.ofDirectory fs root config).mapError .scan
  return ⟨if report.ok then 0 else 1, ← render format report, []⟩

/-- The answer to `check`. A limit on the command line comes before that of the configuration. -/
def check (fs : FileSystem) (root : Path) (maxDepth : Option Int) (format : Format) :
    Except Failure Output :=
  match Config.load fs root with
  | .error error =>
    match error.message? with
    | some said => .ok (refusal said)
    | none => .error (.config error)
  | .ok config =>
    match maxDepth with
    | none => checkWith fs root config format
    | some (.ofNat n) => checkWith fs root { config with maxDepth := n } format
    | some (.negSucc n) =>
      .ok (refusal ("--max-depth must be >= 0, got " ++ Text.ofInt (.negSucc n)))

def listRules : Output := ⟨0, DepthRule.names.flatMap (· ++ "\n"), []⟩

def pathFrom (directory : Path) (written : Text) : Path :=
  (if FileSystem.isAbsolute written then [] else directory) ++ Path.components written

def run (fs : FileSystem) (directory : Path) (texts : List Text) : Except Failure Output :=
  match Request.ofTexts texts with
  | .error stop => .ok stop.output
  | .ok .rules => .ok listRules
  | .ok (.check root maxDepth format) =>
    match fs.resolve? (pathFrom directory root) with
    | none => .error (.scan .circularLink)
    | some real => check fs real maxDepth format

end ImportDepth.CommandLine
