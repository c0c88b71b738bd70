import ImportDepth.Number.Binary64

/-! The shortest decimal that reads back as a given double. Grids of one, two, … seventeen digits are
tried in turn; on each the two neighbours of the value are tested against the interval of reals that
round to it, and the nearer of those that lie in it is taken. -/
namespace ImportDepth.Shortest

/-- A decimal `digits · 10 ^ exponent`. -/
structure Decimal where
  digits : Nat
  exponent : Int
  deriving DecidableEq, Repr

/-- The decimal without zeros at the end of its digits; `fuel` bounds how many are taken off. -/
def stripZeros : Nat → Decimal → Decimal
  | 0, d => d
  | fuel + 1, d =>
    if d.digits ≠ 0 ∧ d.digits % 10 = 0 then stripZeros fuel ⟨d.digits / 10, d.exponent + 1⟩ else d

/-- The least `k` with `num / den < 10 ^ k`, searched upwards from a guess that is not above it. -/
def decimalPoint (num den : Nat) : Nat → Int → Int
  | 0, guess => guess
  | fuel + 1, guess =>
    let below :=
      if 0 ≤ guess then num < den * Nat.pow 10 guess.toNat else num * Nat.pow 10 (-guess).toNat < den
    if below then guess else decimalPoint num den fuel (guess + 1)

/-- Whether a grid point that differs from the value by `distance / scale` of the value lies in the
interval that rounds to it. `width` is the interval's half as a part of the value, one to `width`. -/
def inInterval (even : Bool) (distance scale width : Nat) : Bool :=
  if even then distance * width ≤ scale else distance * width < scale

/-- The grid point with `count` digits that reads back as `significand · 2 ^ exponent`, if any. -/
def onGrid? (significand : Nat) (exponent : Int) (num den : Nat) (point : Int) (count : Nat) :
    Option Decimal :=
  let grid := point - count
  let n := if grid < 0 then num * Nat.pow 10 (-grid).toNat else num
  let d := if grid < 0 then den else den * Nat.pow 10 grid.toNat
  let below := n / d
  let above := below + 1
  let even := significand % 2 = 0
  let lowWidth :=
    if significand = Nat.pow 2 52 ∧ Binary64.minExponent < exponent then 4 * significand
    else 2 * significand
  let belowHit := inInterval even (n - below * d) n lowWidth
  let aboveHit := inInterval even (above * d - n) n (2 * significand)
  let nearerBelow :=
    n - below * d < above * d - n ∨ (n - below * d = above * d - n ∧ below % 2 = 0)
  if belowHit ∧ (!aboveHit ∨ nearerBelow) then some ⟨below, grid⟩
  else if aboveHit then some ⟨above, grid⟩
  else none

/-- The shortest decimal that reads back as the positive number `significand · 2 ^ exponent`. -/
def decimal (significand : Nat) (exponent : Int) : Decimal :=
  let num := if 0 ≤ exponent then significand * Nat.pow 2 exponent.toNat else significand
  let den := if 0 ≤ exponent then 1 else Nat.pow 2 (-exponent).toNat
  let low : Int := ((significand.log2 : Int) + exponent) * 3 / 10 - 2
  let point := decimalPoint num den 64 low
  let counts := (List.range 17).map (· + 1)
  match counts.findSome? (onGrid? significand exponent num den point) with
  | some found => stripZeros 32 found
  | none => ⟨num, 0⟩

end ImportDepth.Shortest
