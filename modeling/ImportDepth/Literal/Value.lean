import ImportDepth.Literal.CharacterReference
import ImportDepth.Syntax.Node
import ImportDepth.Text.Integer

/-! The value of a string literal: its pieces in order, each decoded by its kind. An escape whose
number names no code point keeps its spelling, but a piece that cannot be read leaves the literal
without an answer. -/
namespace ImportDepth

namespace Escape

def isLineTerminator (c : CodePoint) : Bool :=
  [0xA, 0xD, 0x2028, 0x2029].contains c.val

def simple : List (Text × CodePoint) :=
  [("n", '\n'), ("r", '\r'), ("t", '\t'), ("b", '\x08'), ("f", '\x0c'), ("v", '\x0b'), ("0", '\x00')]

def numbered? (digits : Text) : Option CodePoint := do
  let n ← digits.integer? 16
  if n < 0 then none else CodePoint.ofNat? n.toNat

/-- What stands after the backslash, decoded, if it can be. A line terminator joins two lines. -/
def decodeBody? (body : Text) : Option Text :=
  match body with
  | [] => some []
  | c :: rest =>
    if isLineTerminator c then some []
    else match simple.lookup body with
      | some value => some [value]
      | none =>
        if c = 'u' ∧ rest.head? = some '{' ∧ body.getLast? = some '}' then
          (numbered? (rest.drop 1).dropLast).map ([·])
        else if (c = 'u' ∨ c = 'x') ∧ rest ≠ [] then (numbered? rest).map ([·])
        else some body

/-- An escape sequence, its backslash included, decoded; one that cannot be stays as written. -/
def decode (written : Text) : Text := (decodeBody? (written.drop 1)).getD written

end Escape

namespace Literal

def piece (n : Node) : Except CharacterReference.Fault Text :=
  let written := n.decodedText?.getD []
  if n.kind = "escape_sequence" then .ok (Escape.decode written)
  else if n.kind = "html_character_reference" then CharacterReference.resolve written
  else .ok written

end Literal

/-- The value of a plain string literal. No other expression has one. -/
def Node.literal? (n : Node) : Except CharacterReference.Fault (Option Text) :=
  if n.kind = "string" then return some (← n.namedChildren.mapM Literal.piece).flatten
  else return none

end ImportDepth
