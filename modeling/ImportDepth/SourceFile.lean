import ImportDepth.Scan.SourceFiles
import ImportDepth.SourceLint

/-! Source files in a file system. A file is named by its path below the root if it is really there, and
by the path that was given otherwise. -/
namespace ImportDepth

structure SourceFile where
  path : Text
  dialect : Dialect
  content : Bytes

namespace SourceFile

def displayPath (fs : FileSystem) (root p : Path) : Except Scan.Fault Text :=
  match fs.resolve? p, fs.resolve? root with
  | some real, some realRoot =>
    .ok (match real.relativeTo? realRoot with
      | some parts => Path.relativeText parts
      | none => p.text)
  | _, _ => .error .circularLink

/-- The source file under a path. What has no dialect is none, and so is what cannot be read; without
permissions that is only what is no file. -/
def open? (fs : FileSystem) (root p : Path) : Except Scan.Fault (Option SourceFile) :=
  match Dialect.ofComponents? p, fs.read? p with
  | some dialect, some content =>
    (displayPath fs root p).map fun path => some ⟨path, dialect, content⟩
  | _, _ => .ok none

def lint (rule : DepthRule) (file : SourceFile) : List Finding :=
  Source.lint rule file.path file.dialect file.content

inductive Fault where
  | circularLink
  | limit (error : DepthRule.LimitError)

/-- The findings in one file, under a limit that is looked at only if there is a source file. -/
def lintAt (fs : FileSystem) (root p : Path) (limit : Value) : Except Fault (List Finding) := do
  match ← (open? fs root p).mapError fun _ => Fault.circularLink with
  | none => return []
  | some file => return file.lint ⟨← (DepthRule.limitOf limit).mapError .limit⟩

end SourceFile

end ImportDepth
