import ImportDepth.Text.Basic

/-! Module specifiers and how far they climb. Only a relative specifier is ever too deep. Its depth
is a plain count of `../` anywhere in it, without any normalisation of the path. -/
namespace ImportDepth

namespace Specifier

/-- A specifier that is resolved against the file that holds it. -/
def isRelative (specifier : Text) : Bool := ("." : Text).isPrefixOf specifier

/-- The number of occurrences of `../`, found from left to right without overlap. -/
def parentSegments : Text → Nat
  | a :: b :: c :: rest =>
    if a = '.' ∧ b = '.' ∧ c = '/' then parentSegments rest + 1
    else parentSegments (b :: c :: rest)
  | _ => 0

def message (specifier : Text) (limit : Int) : Text :=
  "Import/export path \"" ++ specifier ++ "\" must not exceed the maximum depth (" ++
    Text.ofInt limit ++ " levels)"

end Specifier

/-- A relative specifier that climbs more often than the limit allows. -/
structure Violation where
  specifier : Text
  limit : Int
  depth : Nat
  deriving DecidableEq

def Violation.message (v : Violation) : Text := Specifier.message v.specifier v.limit

namespace Specifier

def classify (specifier : Text) (limit : Int) : Option Violation :=
  if isRelative specifier ∧ limit < parentSegments specifier then
    some ⟨specifier, limit, parentSegments specifier⟩
  else none

end Specifier
end ImportDepth
