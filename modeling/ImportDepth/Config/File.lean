import ImportDepth.Config
import ImportDepth.FileSystem.Basic
import ImportDepth.Toml.Reader

/-! The configuration file of a directory. A directory without one has the default configuration. -/
namespace ImportDepth.Config

def fileName : Text := "depthlint.toml"

inductive LoadError where
  /-- The file is no UTF-8. -/
  | notText
  /-- An integer in it has more digits than are read. -/
  | oversizedInteger
  /-- The file is no TOML document. -/
  | malformed (file : Path)
  /-- The document states no configuration. -/
  | invalid (file : Path) (fault : Fault)
  deriving DecidableEq

/-- What the user is told. Both texts go on with a colon and the reason in the words of the TOML reader
or of the validator; that tail is left out, except for the one reason that is worded by the program
itself. A file that is no text and an integer with too many digits have no text, since neither is caught. -/
def LoadError.message? : LoadError → Option Text
  | notText | oversizedInteger => none
  | malformed file => some ("Invalid TOML in " ++ file.text)
  | invalid file .extensionsNotTexts =>
    some ("Invalid config in " ++ file.text ++ ": " ++ Fault.extensionsMessage)
  | invalid file (.issues _) => some ("Invalid config in " ++ file.text)

def ofBytes (file : Path) (content : Bytes) : Except LoadError Config :=
  match Utf8.decode? content with
  | none => .error .notText
  | some text =>
    match Toml.read text with
    | .error .malformed => .error (.malformed file)
    | .error .oversizedInteger => .error .oversizedInteger
    | .ok value => (ofValue value).mapError (.invalid file)

def load (fs : FileSystem) (root : Path) : Except LoadError Config :=
  let file := root ++ [fileName]
  match fs.read? file with
  | none => .ok {}
  | some content => ofBytes file content

end ImportDepth.Config
