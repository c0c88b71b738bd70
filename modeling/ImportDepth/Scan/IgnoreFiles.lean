import ImportDepth.Scan.Walk

/-! The ignore files that count in a scan: that of the root alone, or those of all directories. -/
namespace ImportDepth.Scan

def ignoreFileName : Text := ".gitignore"

/-- The ignore files below a root in order, found without ignoring anything. -/
def ignoreFiles (fs : FileSystem) (root : Path) : Except Ignore.Fault (List (List Text)) := do
  let files ← filesBelow fs root fun _ => .ok false
  return sorted (files.filter fun parts => parts.getLast? = some ignoreFileName)

def rulesAt (fs : FileSystem) (p : Path) : Except Ignore.Fault Ignore.Rules :=
  Ignore.Rules.ofBytes p.dropLast ((fs.read? p).getD [])

/-- The ignore files that count. The root's own may be a link unless all directories are asked. -/
def matcher? (fs : FileSystem) (root : Path) (nested : Bool) :
    Except Ignore.Fault (Option Ignore.Matcher) := do
  if nested then
    match ← ignoreFiles fs root with
    | [] => return none
    | files => return some (.several (← files.mapM fun parts => rulesAt fs (root ++ parts)))
  else if fs.isFile (root ++ [ignoreFileName]) then
    return some (.single (← rulesAt fs (root ++ [ignoreFileName])))
  else return none

def ignoredBy (matcher? : Option Ignore.Matcher) (root : Path) : Ignored := fun parts =>
  match matcher? with
  | none => .ok false
  | some m => m.ignores (root ++ parts)

/-- Whether a path or one of the directories above it is ignored, starting from the topmost. -/
def anyIgnored (ignored : Ignored) (here : List Text) : List Text → Except Ignore.Fault Bool
  | [] => .ok false
  | part :: rest => do
    if ← ignored (here ++ [part]) then return true else anyIgnored ignored (here ++ [part]) rest

end ImportDepth.Scan
