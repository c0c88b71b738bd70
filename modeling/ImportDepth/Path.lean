import ImportDepth.Text.LowerCase

/-! Slash-separated paths. Empty components and single dots say nothing and are dropped; a double
dot is kept, because what it leads to depends on links. -/
namespace ImportDepth

/-- The components of a path from the root of the file system. -/
abbrev Path := List Text

namespace Path

/-- The components of a written path that lead anywhere. -/
def components (written : Text) : List Text :=
  (written.splitOn '/').filter fun part => part ≠ [] && part ≠ ("." : Text)

/-- The components with slashes between them; no component at all is the dot. -/
def relativeText : List Text → Text
  | [] => "."
  | parts => Text.join "/" parts

def text (p : Path) : Text := '/' :: Text.join "/" p

/-- The suffix of a file name: from its last dot on, unless the name starts or ends with that dot. -/
def nameSuffix (name : Text) : Text :=
  let tail := (name.reverse.takeWhile fun c => c ≠ ('.' : CodePoint)).reverse
  if tail ≠ [] ∧ tail.length + 1 < name.length then '.' :: tail else []

def suffix (parts : List Text) : Text := nameSuffix (parts.getLast?.getD [])

/-- One step of lexical normalisation on a reversed path: a double dot removes the component before
it, and nothing is above the root. -/
def normalizeStep (reversed : List Text) (part : Text) : List Text :=
  if part = (".." : Text) then reversed.drop 1 else part :: reversed

/-- The path with every double dot removed together with the component before it. -/
def normalize (p : Path) : Path := (p.foldl normalizeStep []).reverse

def relativeTo? : Path → Path → Option (List Text)
  | parts, [] => some parts
  | a :: parts, b :: directory => if a = b then relativeTo? parts directory else none
  | [], _ :: _ => none

end Path
end ImportDepth
