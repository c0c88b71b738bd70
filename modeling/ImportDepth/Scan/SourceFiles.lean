import ImportDepth.Dialect
import ImportDepth.FileSystem.Resolve
import ImportDepth.Glob
import ImportDepth.Scan.IgnoreFiles

/-! The source files below a directory. They are regular files with wanted extensions, really below the
directory, in no skipped or ignored directory, and wanted by patterns on their paths. -/
namespace ImportDepth.Scan

inductive Fault where
  | ignore (fault : Ignore.Fault)
  /-- A path has no real path because its links run in circles. -/
  | circularLink
  deriving DecidableEq, Repr

structure Selection where
  extensions : List Text := Dialect.supportedExtensions
  /-- Patterns of which one must match; none at all means that every file will do. -/
  includePatterns : List Text := []
  /-- Patterns of which none must match. -/
  excludePatterns : List Text := []

namespace Selection

def wants (s : Selection) (parts : List Text) : Bool :=
  let matching := fun pattern => Glob.matchesText pattern (Path.relativeText parts)
  (s.includePatterns.isEmpty || s.includePatterns.any matching) && !s.excludePatterns.any matching

def lowered (s : Selection) : Selection := { s with extensions := s.extensions.map Text.lower }

end Selection

def isWithin (fs : FileSystem) (root p : Path) : Except Fault Bool :=
  match fs.resolve? root, fs.resolve? p with
  | some realRoot, some real => .ok (real.relativeTo? realRoot).isSome
  | _, _ => .error .circularLink

/-- Whether a path is one of the source files of a root: a regular file with a wanted extension that is
really below the root, in no skipped or ignored directory, and wanted by the patterns. -/
def includes (fs : FileSystem) (root : Path) (ignored : Ignored) (s : Selection) (p : Path) :
    Except Fault Bool := do
  if !s.extensions.contains (Path.suffix p).lower then return false
  if !fs.isFile p || fs.isLink p then return false
  if !(← isWithin fs root p) then return false
  match p.relativeTo? root with
  | none => return false
  | some parts =>
    if parts.dropLast.any isSkipped then return false
    if ← (anyIgnored ignored [] parts).mapError Fault.ignore then return false
    return s.wants parts

/-- The members of a list that pass a test, up to the first fault. -/
def keep {α ε : Type} (test : α → Except ε Bool) : List α → Except ε (List α)
  | [] => .ok []
  | a :: rest => do
    let kept ← test a
    let others ← keep test rest
    return if kept then a :: others else others

/-- The source files below a root, in the order of the texts of their paths. -/
def sourceFiles (fs : FileSystem) (root : Path) (s : Selection) (nested : Bool) :
    Except Fault (List (List Text)) := do
  let ignored := ignoredBy (← (matcher? fs root nested).mapError Fault.ignore) root
  let candidates ← (filesBelow fs root ignored).mapError Fault.ignore
  let files ← keep (fun parts => includes fs root ignored s.lowered (root ++ parts)) candidates
  return sorted files

end ImportDepth.Scan
