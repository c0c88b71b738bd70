import ImportDepth.Bracket
import ImportDepth.Text.Blank

/-! The patterns of an ignore file. A line holds one pattern: an exclamation mark takes paths back in,
a slash at the end asks for a directory, and a slash before the end ties the pattern to the directory
of the file. What is left is turned into a regular expression. -/
namespace ImportDepth.Ignore

/-- Why an ignore file cannot be read or a path cannot be matched. -/
inductive Fault where
  /-- The file is no UTF-8. -/
  | notText
  /-- Nothing is left of a pattern, or of a set in it, where a code point is needed. -/
  | exhausted
  /-- A pattern spells no regular expression. -/
  | unreadable
  /-- The path is not below the directory of the file. -/
  | outside
  deriving DecidableEq, Repr

structure Pattern where
  /-- A matching path is not ignored. -/
  negated : Bool
  directoryOnly : Bool
  /-- The match starts at the directory of the file, not below it. -/
  anchored : Bool
  body : Text
  deriving DecidableEq

namespace Pattern

def isStar (c : CodePoint) : Bool := c = '*'

/-- Two or more stars after anything but a slash become one. The number counts code points that are
passed over. -/
def squeezeAfter : Nat → Text → Text
  | _, [] => []
  | skip + 1, _ :: rest => squeezeAfter skip rest
  | 0, c :: rest =>
    let stars := (rest.takeWhile isStar).length
    if c ≠ '/' ∧ 2 ≤ stars then c :: '*' :: squeezeAfter stars rest
    else c :: squeezeAfter 0 rest

/-- Two or more stars before anything but a slash become one. A third star counts as what the others
stand before. -/
def squeezeBefore : Nat → Text → Text
  | _, [] => []
  | skip + 1, _ :: rest => squeezeBefore skip rest
  | 0, c :: rest =>
    let stars := ((c :: rest).takeWhile isStar).length
    let next := ((c :: rest).drop stars).head?
    if 2 ≤ stars ∧ next.any (fun d => d ≠ ('/' : CodePoint)) then
      ('*' : CodePoint) :: next.toList ++ squeezeBefore stars rest
    else if 3 ≤ stars then '*' :: '*' :: squeezeBefore (stars - 1) rest
    else c :: squeezeBefore 0 rest

def first : Text → Except Fault CodePoint
  | [] => .error .exhausted
  | c :: _ => .ok c

def last (t : Text) : Except Fault CodePoint := first t.reverse

def dropFirstSlash (t : Text) : Except Fault Text := do
  return if (← first t) = '/' then t.drop 1 else t

def dropLastSlash (t : Text) : Except Fault Text := do
  return if (← last t) = '/' then t.dropLast else t

/-- Text without a backslash before a number sign or an exclamation mark at its beginning. -/
def dropFirstEscape (t : Text) : Except Fault Text := do
  if (← first t) = '\\' then
    let second ← first (t.drop 1)
    return if second = '#' ∨ second = '!' then t.drop 1 else t
  else return t

/-- Reversed text without the spaces at its beginning. A backslash after a space is dropped instead and
keeps this space and all further ones. The last two code points are never looked at. -/
def trimSpaces (removing : Bool) : Text → Text
  | [] => []
  | c :: before =>
    if c = ' ' ∧ 2 ≤ before.length then
      match before with
      | [] => [c]
      | d :: earlier =>
        if d = '\\' then c :: trimSpaces false earlier
        else if removing then trimSpaces true (d :: earlier)
        else c :: trimSpaces false (d :: earlier)
    else c :: before

/-- The pattern that a line holds. Blank lines and comments hold none, and neither does a slash. -/
def ofLine (line : Text) : Except Fault (Option Pattern) := do
  if line.trim (·.isBlank) = [] ∨ line.head? = some '#' then return none
  let negated := line.head? = some '!'
  let written := squeezeBefore 0 (squeezeAfter 0 (if negated then line.drop 1 else line))
  if written.dropEndWhile (·.isBlank) = "/" then return none
  let directoryOnly := (← last written) = '/'
  let body ← dropFirstSlash written
  let _ ← first body
  let anywhere := ("**" : Text).isPrefixOf body
  let body ← dropFirstSlash (if anywhere then body.drop 2 else body)
  let body ← dropLastSlash body
  let body ← dropFirstEscape body
  return some ⟨negated, directoryOnly, written.dropLast.contains '/' && !anywhere,
    (trimSpaces true body.reverse).reverse⟩

/-- The code points that a regular expression spells with a backslash. -/
def special : Text := "()[]\x7b\x7d?*+-|^$\\.&~# \t\n\r\x0b\x0c"

def escape (c : CodePoint) : Text := if special.contains c then ['\\', c] else [c]

/-- A set with the given content. Slashes are never members, and backslashes stand for themselves. -/
def set (content : Text) : Except Fault Text :=
  let members : Text := (content.filter fun c => c ≠ ('/' : CodePoint)).flatMap fun c : CodePoint =>
    if c = '\\' then [c, c] else [c]
  match members with
  | [] => .error .exhausted
  | c :: rest =>
    let inner : Text :=
      if c = '!' then '^' :: rest else if c = '^' then '\\' :: c :: rest else members
    .ok ("[" ++ inner ++ "]")

/-- The regular expression of a body. The number counts code points that are passed over. -/
def spell : Nat → Text → Except Fault Text
  | _, [] => .ok []
  | skip + 1, _ :: rest => spell skip rest
  | 0, c :: rest =>
    if c = '*' then
      if ("*/" : Text).isPrefixOf rest then return "(.*[/])?" ++ (← spell 2 rest)
      else if ("*" : Text).isPrefixOf rest then return ".*" ++ (← spell 1 rest)
      else return "[^/]*" ++ (← spell 0 rest)
    else if c = '?' then return "[^/]" ++ (← spell 0 rest)
    else if c = '/' then return "[/]" ++ (← spell 0 rest)
    else if c = '[' then
      match Bracket.content? rest with
      | some content => return (← set content) ++ (← spell (content.length + 1) rest)
      | none => return "\\[" ++ (← spell 0 rest)
    else return escape c ++ (← spell 0 rest)

def expression (p : Pattern) : Except Fault Text := do
  let body ← spell 0 p.body
  let start : Text := if p.anchored then "^" else "(^|[/])"
  let stop : Text :=
    if !p.directoryOnly then "$" else if p.negated then "/$" else "($|\\/)"
  return start ++ body ++ stop

end Pattern
end ImportDepth.Ignore
