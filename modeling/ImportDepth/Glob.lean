import ImportDepth.Bracket
import ImportDepth.Regex.Basic

/-! Patterns for whole paths. A star matches any text and a question mark any code point, slashes and
line feeds included. -/
namespace ImportDepth.Glob

inductive Member where
  | single (c : CodePoint)
  | range (low high : CodePoint)
  deriving DecidableEq

/-- The members that a text spells, from left to right. A dash that is neither first nor last after
what came before makes a range. -/
def members : Text → List Member
  | low :: dash :: high :: rest =>
    if dash = '-' then .range low high :: members rest
    else .single low :: members (dash :: high :: rest)
  | low :: rest => .single low :: members rest
  | [] => []

def Member.isReversed : Member → Bool
  | single _ => false
  | range low high => high < low

def Member.bounds : Member → Nat × Nat
  | single c => (c.val, c.val)
  | range low high => (low.val, high.val)

/-- The set that members make. An exclamation mark that comes first, on its own or as the beginning of a
range, turns the set around; the rest of that range is then taken code point by code point. -/
def setOf : List Member → CharSet
  | .single c :: rest =>
    if c = '!' then ⟨true, rest.map Member.bounds⟩
    else ⟨false, (Member.single c :: rest).map Member.bounds⟩
  | .range low high :: rest =>
    if low = '!' then ⟨true, (Member.single '-' :: .single high :: rest).map Member.bounds⟩
    else ⟨false, (Member.range low high :: rest).map Member.bounds⟩
  | [] => ⟨false, []⟩

/-- The set that the content of brackets spells. Ranges that run backwards hold nothing and are taken
out first. -/
def bracketSet (content : Text) : CharSet :=
  let spelled := match content with
    | c :: rest => if c = '!' then Member.single c :: members rest else members content
    | [] => []
  setOf (spelled.filter fun m => !m.isReversed)

/-- The regular expression of a pattern. The number counts code points that are passed over. -/
def regexFrom : Nat → Text → Regex
  | _, [] => .empty
  | skip + 1, _ :: rest => regexFrom skip rest
  | 0, c :: rest =>
    if c = '*' then .seq (.many .anything) (regexFrom 0 rest)
    else if c = '?' then .seq (.one .anything) (regexFrom 0 rest)
    else if c = '[' then
      match Bracket.content? rest with
      | some content => .seq (.one (bracketSet content)) (regexFrom (content.length + 1) rest)
      | none => .seq (.one (.single c)) (regexFrom 0 rest)
    else .seq (.one (.single c)) (regexFrom 0 rest)

def regex (pattern : Text) : Regex := regexFrom 0 pattern

def matchesText (pattern t : Text) : Bool := (regex pattern).matchesAll t

end ImportDepth.Glob
