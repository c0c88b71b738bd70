import ImportDepth.FileSystem.Basic
import ImportDepth.Ignore.Rules

/-! The regular files below a directory, named by their components below it. Directories of installed
packages and of version control are never entered, ignored ones neither, and links are not followed. -/
namespace ImportDepth.Scan

/-- What is asked of the ignore files about a path below the root. -/
abbrev Ignored := List Text → Except Ignore.Fault Bool

def skippedNames : List Text := ["node_modules", ".git"]

def isSkipped (name : Text) : Bool := skippedNames.contains name

/-- Whether the walk leaves out an entry: a directory that is skipped or ignored. -/
def isPruned (ignored : Ignored) (here : List Text) (name : Text) (entry : Entry) :
    Except Ignore.Fault Bool :=
  if !entry.isDirectory then .ok false
  else if isSkipped name then .ok true
  else ignored (here ++ [name])

mutual

def walk (ignored : Ignored) (here : List Text) : Entry → Except Ignore.Fault (List (List Text))
  | .file _ => .ok [here]
  | .link _ => .ok []
  | .directory entries => walkEntries ignored here entries

def walkEntries (ignored : Ignored) (here : List Text) :
    List (Text × Entry) → Except Ignore.Fault (List (List Text))
  | [] => .ok []
  | (name, entry) :: rest => do
    let files ←
      if ← isPruned ignored here name entry then pure [] else walk ignored (here ++ [name]) entry
    return files ++ (← walkEntries ignored here rest)

end

/-- The regular files below a root. What is no directory has none. -/
def filesBelow (fs : FileSystem) (root : Path) (ignored : Ignored) :
    Except Ignore.Fault (List (List Text)) :=
  match fs.list? root with
  | none => .ok []
  | some entries => walkEntries ignored [] entries

/-- Names of files in the order of the texts of their paths. -/
def sorted (files : List (List Text)) : List (List Text) :=
  files.mergeSort fun a b => Text.le (Path.relativeText a) (Path.relativeText b)

end ImportDepth.Scan
