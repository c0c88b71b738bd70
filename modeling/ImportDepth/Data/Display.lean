import ImportDepth.Data.Value
import ImportDepth.Text.Quoted

/-! How a value is shown in a message. -/
namespace ImportDepth

namespace Binary64

/-- How the decimals of a number are laid out: positionally while the decimal point falls after more
than `leastPoint` and at most `greatestPoint` digits, and with an exponent otherwise. -/
structure Layout where
  leastPoint : Int
  greatestPoint : Int
  /-- The least number of digits of an exponent. -/
  exponentWidth : Nat

/-- Positional from `0.0001` up to sixteen whole digits. -/
def layout : Layout := ⟨-4, 16, 2⟩

def padded (width : Nat) (digits : Text) : Text :=
  List.replicate (width - digits.length) ('0' : CodePoint) ++ digits

def layOut (l : Layout) (d : Shortest.Decimal) : Text :=
  let digits := Text.ofNat d.digits
  let point : Int := digits.length + d.exponent
  if l.leastPoint < point ∧ point ≤ l.greatestPoint then
    if point ≤ 0 then "0." ++ List.replicate (-point).toNat ('0' : CodePoint) ++ digits
    else if digits.length ≤ point.toNat then
      digits ++ List.replicate (point.toNat - digits.length) ('0' : CodePoint) ++ ".0"
    else digits.take point.toNat ++ "." ++ digits.drop point.toNat
  else
    let fraction := digits.drop 1
    let exponent := point - 1
    digits.take 1 ++ (if fraction = [] then fraction else "." ++ fraction) ++ "e" ++
      (if exponent < 0 then "-" else "+") ++ padded l.exponentWidth (Text.ofNat exponent.natAbs)

def display : Binary64 → Text
  | nan => "nan"
  | infinite negative => if negative then "-inf" else "inf"
  | finite negative significand exponent =>
    let magnitude : Text :=
      if significand = 0 then "0.0" else layOut layout (Shortest.decimal significand exponent)
    if negative then '-' :: magnitude else magnitude

end Binary64

namespace Value

mutual

def display : Value → Text
  | null => "None"
  | bool b => if b then "True" else "False"
  | int n => Text.ofInt n
  | float x => x.display
  | text t => t.quoted
  | moment written => written
  | list items => "[" ++ Text.join ", " (displayItems items) ++ "]"
  | table entries => "\x7b" ++ Text.join ", " (displayEntries entries) ++ "\x7d"

def displayItems : List Value → List Text
  | [] => []
  | v :: rest => v.display :: displayItems rest

def displayEntries : List (Text × Value) → List Text
  | [] => []
  | (key, v) :: rest => (key.quoted ++ ": " ++ v.display) :: displayEntries rest

end

end Value
end ImportDepth
