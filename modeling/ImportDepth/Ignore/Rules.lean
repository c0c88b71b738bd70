import ImportDepth.Ignore.Pattern
import ImportDepth.Path
import ImportDepth.Regex.Reader
import ImportDepth.Text.Lines
import ImportDepth.Text.Utf8

/-! The rules of an ignore file and what they say about paths. A path is looked at from the directory
that holds the file. Without negated rules a path is ignored if some rule matches it; with one, the
last rule that matches decides. Several ignore files ignore what one of them ignores. -/
namespace ImportDepth.Ignore

structure Rule where
  negated : Bool
  /-- What a path must hold. A pattern may spell no regular expression, which shows only when a path
  is matched. -/
  regex? : Option Regex
  deriving DecidableEq

namespace Rule

def ofPattern (p : Pattern) : Except Fault Rule := do
  return ⟨p.negated, Regex.read? (← p.expression)⟩

def ofLine (line : Text) : Except Fault (Option Rule) := do
  match ← Pattern.ofLine line with
  | none => return none
  | some p => return some (← ofPattern p)

/-- The text of a path below a directory that a rule looks at. A slash at its end is seen by negated
rules only. -/
def subject (negated slashAtEnd : Bool) (parts : List Text) : Text :=
  let text := Path.relativeText parts ++ if negated && slashAtEnd then "/" else ""
  if ("./" : Text).isPrefixOf text then text.drop 2 else text

def matchesPath (directory : Path) (p : Path) (slashAtEnd : Bool) (rule : Rule) :
    Except Fault Bool :=
  match p.normalize.relativeTo? directory.normalize, rule.regex? with
  | none, _ => .error .outside
  | some _, none => .error .unreadable
  | some parts, some regex => .ok (regex.occursIn (subject rule.negated slashAtEnd parts))

end Rule

/-- The rules of one ignore file, in its order, with the directory that holds it. -/
structure Rules where
  directory : Path
  list : List Rule

namespace Rules

/-- The rules in the lines of a file, up to the first fault. -/
def ofLines : List Text → Except Fault (List Rule)
  | [] => .ok []
  | line :: rest => do
    let rule? ← Rule.ofLine line
    let rules ← ofLines rest
    return rule?.toList ++ rules

def ofBytes (directory : Path) (content : Bytes) : Except Fault Rules := do
  match Utf8.decode? content with
  | none => throw .notText
  | some text => return ⟨directory, ← ofLines text.lines⟩

def firstMatch (matchesPath : Rule → Except Fault Bool) : List Rule → Except Fault (Option Rule)
  | [] => .ok none
  | rule :: rest => do
    if ← matchesPath rule then return some rule else firstMatch matchesPath rest

def ignores (rules : Rules) (p : Path) (slashAtEnd : Bool := false) : Except Fault Bool := do
  let matching := Rule.matchesPath rules.directory p slashAtEnd
  if rules.list.any (·.negated) then
    return (← firstMatch matching rules.list.reverse).any fun rule => !rule.negated
  else return (← firstMatch matching rules.list).isSome

end Rules

/-- The ignore files that count in a scan: that of the root alone, or those of several directories. -/
inductive Matcher where
  | single (rules : Rules)
  | several (list : List Rules)

namespace Matcher

/-- Whether any of several ignore files ignores a path. A file whose directory is elsewhere says
nothing. -/
def anyIgnores (p : Path) (slashAtEnd : Bool) : List Rules → Except Fault Bool
  | [] => .ok false
  | rules :: rest =>
    match rules.ignores p slashAtEnd with
    | .ok true => .ok true
    | .ok false | .error .outside => anyIgnores p slashAtEnd rest
    | .error fault => .error fault

/-- Whether a path is ignored. Of a path it matters only how it is written. -/
def ignores (m : Matcher) (p : Path) (slashAtEnd : Bool := false) : Except Fault Bool :=
  match m with
  | single rules => rules.ignores p slashAtEnd
  | several list => anyIgnores p slashAtEnd list

end Matcher
end ImportDepth.Ignore
