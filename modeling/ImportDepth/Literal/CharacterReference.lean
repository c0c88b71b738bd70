import ImportDepth.Literal.ReferenceNames
import ImportDepth.Text.Digit

/-! Character references as HTML reads them: `&name;` and `&#number;`, mostly with an optional
semicolon. A reference to nothing stays as it is written, but a decimal number of too many digits makes
the whole text unreadable. -/
namespace ImportDepth.CharacterReference

inductive Fault where
  /-- A decimal number with more digits than are converted. Leading zeros count. -/
  | oversizedNumber
  deriving DecidableEq, Repr

def named : List (Text × Text) :=
  names.map fun (name, points) => (Text.ofString name, points.filterMap CodePoint.ofNat?)

def meaning? (name : Text) : Option Text := named.lookup name

/-- The meaning of the longest proper beginning, at least two long, that is a name of its own; the
rest follows it unchanged. `length` bounds the beginnings that are tried. -/
def longestPrefix? (written : Text) : Nat → Option Text
  | 0 => none
  | length + 1 =>
    if length < 1 then none
    else match meaning? (written.take (length + 1)) with
      | some value => some (value ++ written.drop (length + 1))
      | none => longestPrefix? written length

def ofName (written : Text) : Text :=
  match meaning? written with
  | some value => value
  | none => (longestPrefix? written (written.length - 1)).getD ('&' :: written)

/-- The code points that the numbers 0x80 to 0x9F refer to. -/
def highControls : List Nat := [
  0x20AC, 0x81, 0x201A, 0x192, 0x201E, 0x2026, 0x2020, 0x2021, 0x2C6, 0x2030, 0x160, 0x2039, 0x152,
  0x8D, 0x17D, 0x8F, 0x90, 0x2018, 0x2019, 0x201C, 0x201D, 0x2022, 0x2013, 0x2014, 0x2DC, 0x2122,
  0x161, 0x203A, 0x153, 0x9D, 0x17E, 0x178]

/-- A number that refers to nothing that may stand in a document: a control or a noncharacter. -/
def isForbidden (n : Nat) : Bool :=
  (1 ≤ n && n ≤ 8) || n = 0xB || (0xE ≤ n && n ≤ 0x1F) || n = 0x7F ||
    (0xFDD0 ≤ n && n ≤ 0xFDEF) || (n % 0x10000 = 0xFFFE || n % 0x10000 = 0xFFFF)

def ofNumber (n : Nat) : Text :=
  if n = 0 then [CodePoint.replacement]
  else if 0x80 ≤ n ∧ n ≤ 0x9F then ((highControls[n - 0x80]?).bind CodePoint.ofNat?).toList
  else match CodePoint.ofNat? n with
    | none => [CodePoint.replacement]
    | some c =>
      if c.IsSurrogate then [CodePoint.replacement]
      else if isForbidden n then []
      else [c]

def isHexDigit (c : CodePoint) : Bool :=
  c.isAsciiDigit || (0x41 ≤ c.val && c.val ≤ 0x46) || (0x61 ≤ c.val && c.val ≤ 0x66)

/-- Unlike a decimal number, a hexadecimal one may have any number of digits. -/
def hexadecimal (digits : Text) : Nat :=
  digits.foldl (fun value c => value * 16 + (c.digitValue?.getD 0)) 0

def isNameMember (c : CodePoint) : Bool :=
  !([0x9, 0xA, 0xC, 0x20, 0x3C, 0x26, 0x23, 0x3B].contains c.val)

def dropSemicolon : Text → Text
  | [] => []
  | c :: rest => if c = ';' then rest else c :: rest

/-- One reference that starts right after an ampersand: its meaning and what follows it. -/
def read? (t : Text) : Option (Except Fault (Text × Text)) :=
  match t with
  | [] => none
  | c :: rest =>
    if c = '#' then
      let digits := rest.takeWhile (·.isAsciiDigit)
      if Text.maximumDigits < digits.length then some (.error .oversizedNumber)
      else if digits ≠ [] then
        some (.ok (ofNumber (Text.decimal digits), dropSemicolon (rest.drop digits.length)))
      else match rest with
        | x :: more =>
          let digits := more.takeWhile isHexDigit
          if (x = 'x' ∨ x = 'X') ∧ digits ≠ [] then
            some (.ok (ofNumber (hexadecimal digits), dropSemicolon (more.drop digits.length)))
          else none
        | [] => none
    else
      let name := (t.takeWhile isNameMember).take 32
      let after := t.drop name.length
      if name = [] then none
      else match after with
        | s :: more =>
          if s = ';' then some (.ok (ofName (name ++ [s]), more)) else some (.ok (ofName name, after))
        | [] => some (.ok (ofName name, []))

/-- Text with its references replaced, reading at most `fuel` code points. -/
def resolveWithin : Nat → Text → Except Fault Text
  | 0, t => .ok t
  | _ + 1, [] => .ok []
  | fuel + 1, c :: rest =>
    if c = '&' then
      match read? rest with
      | some (.ok (value, after)) => (resolveWithin fuel after).map (value ++ ·)
      | some (.error fault) => .error fault
      | none => (resolveWithin fuel rest).map (c :: ·)
    else (resolveWithin fuel rest).map (c :: ·)

def resolve (t : Text) : Except Fault Text := resolveWithin t.length t

end ImportDepth.CharacterReference
