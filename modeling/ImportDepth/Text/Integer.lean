import ImportDepth.Text.Blank
import ImportDepth.Text.Digit

/-! Integers as people write them: blanks around, an optional sign, digits of any script, and single
underscores between two digits. Base sixteen may be announced by `0x`, which one underscore may
follow. -/
namespace ImportDepth.Text

/-- A blank that may surround an integer. The four ASCII separators do not count. -/
def surroundsInteger (c : CodePoint) : Bool := c.isBlank && !(0x1C ≤ c.val && c.val ≤ 0x1F)

/-- Digits of a base with single underscores between them, as `(value, number of digits)`.
`digitBefore` says whether an underscore may come next. -/
def digits? (base : Nat) (digitBefore : Bool) (value count : Nat) : Text → Option (Nat × Nat)
  | [] => if digitBefore then some (value, count) else none
  | c :: rest =>
    if c = '_' then
      if digitBefore then digits? base false value count rest else none
    else
      match c.digitValue? with
      | some d => if d < base then digits? base true (value * base + d) (count + 1) rest else none
      | none => none

def natural? (base : Nat) (t : Text) : Option Nat :=
  let announced : Text :=
    match t with
    | o :: x :: rest =>
      if base = 16 ∧ o.decimalValue? = some 0 ∧ (x = 'x' ∨ x = 'X') then
        match rest with
        | u :: more => if u = '_' then more else rest
        | [] => rest
      else t
    | _ => t
  match digits? base false 0 0 announced with
  | some (value, count) => if base = 10 ∧ maximumDigits < count then none else some value
  | none => none

def integer? (base : Nat) (t : Text) : Option Int :=
  match t.trim surroundsInteger with
  | [] => none
  | c :: rest =>
    if c = '-' then (natural? base rest).map fun n => -(n : Int)
    else if c = '+' then (natural? base rest).map Int.ofNat
    else (natural? base (c :: rest)).map Int.ofNat

end ImportDepth.Text
