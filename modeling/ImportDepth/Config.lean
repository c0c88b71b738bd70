import ImportDepth.Data.Validation
import ImportDepth.DepthRule
import ImportDepth.Dialect

/-! The configuration of a run. Every key may be left out, and no other key is allowed. Extensions are
brought to lower case with a leading dot. -/
namespace ImportDepth

structure Config where
  maxDepth : Nat := DepthRule.defaultLimit
  /-- Patterns of the files to look at; none at all means every file. -/
  includePatterns : List Text := []
  excludePatterns : List Text := []
  extensions : List Text := Dialect.supportedExtensions
  /-- Whether ignore files below the root count too. -/
  nestedIgnore : Bool := false
  deriving DecidableEq

namespace Config

inductive Fault where
  /-- The extensions are no list of strings. Nothing else is said then. -/
  | extensionsNotTexts
  | issues (list : List Issue)
  deriving DecidableEq

def Fault.extensionsMessage : Text := "extensions must be a list of strings"

def unsupportedMessage (written : Text) : Text :=
  "Unsupported extension '" ++ written ++ "'. Valid extensions: " ++
    Text.join ", " Dialect.supportedExtensions

def normalizeExtension (written : Text) : Text :=
  (if ("." : Text).isPrefixOf written then written else '.' :: written).lower

/-- The extensions in a list, decided by the first item that is not one. -/
def takeExtensions : List Value → Except Fault (List Text)
  | [] => .ok []
  | .text written :: rest =>
    let normalized := normalizeExtension written
    if Dialect.supportedExtensions.contains normalized then
      (takeExtensions rest).map (normalized :: ·)
    else .error (.issues [⟨[.name "extensions"], .unsupportedExtension written⟩])
  | _ :: _ => .error .extensionsNotTexts

def extensionsOf (entries : List (Text × Value)) : Except Fault (List Text) :=
  match entries.lookup ("extensions" : Text) with
  | none => .ok Dialect.supportedExtensions
  | some (.list items) => takeExtensions items
  | some _ => .error .extensionsNotTexts

def toLimit (v : Value) : Checked Nat := do
  match ← v.toInteger with
  | .ofNat n => return n
  | .negSucc _ => Checked.reject .negative

def keys : List Text := ["max_depth", "include", "exclude", "extensions", "nested_gitignore"]

def unknownEntries (entries : List (Text × Value)) : Checked Unit :=
  match (entries.map (·.1)).filter fun key => !keys.contains key with
  | [] => .ok ()
  | unknown => .error (unknown.map fun key => ⟨[.name key], .unknownKey⟩)

/-- The extensions with everything else, where an issue is no reason to stop looking for others. -/
def assemble (extensions : Checked (List Text)) (entries : List (Text × Value)) : Checked Config :=
  let texts := Value.toListOf Value.toText
  let parts :=
    Checked.both (Value.optional entries "max_depth" DepthRule.defaultLimit toLimit) <|
    Checked.both (Value.optional entries "include" [] texts) <|
    Checked.both (Value.optional entries "exclude" [] texts) <|
    Checked.both extensions <|
    Checked.both (Value.optional entries "nested_gitignore" false Value.toBoolean)
      (unknownEntries entries)
  parts.map fun (maxDepth, included, excluded, extensions, nested, _) =>
    { maxDepth := maxDepth, includePatterns := included, excludePatterns := excluded,
      extensions := extensions, nestedIgnore := nested }

def ofValue : Value → Except Fault Config
  | .table entries =>
    let assembled := fun extensions => (assemble extensions entries).mapError Fault.issues
    match extensionsOf entries with
    | .error .extensionsNotTexts => .error .extensionsNotTexts
    | .error (.issues list) => assembled (.error list)
    | .ok extensions => assembled (.ok extensions)
  | _ => .error (.issues [⟨[], .notTable⟩])

end Config
end ImportDepth
