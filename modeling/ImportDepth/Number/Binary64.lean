/-! Double precision numbers as exact values: a finite one is a significand times a power of two.
Rounding from a ratio or from a decimal goes to the nearest number, and to the even significand from
halfway. All arithmetic is on natural numbers. -/
namespace ImportDepth

inductive Binary64 where
  | nan
  | infinite (negative : Bool)
  | finite (negative : Bool) (significand : Nat) (exponent : Int)
  deriving DecidableEq, Repr

namespace Binary64

/-- The quotient rounded to the nearest natural number, to the even one from halfway. -/
def roundDiv (num den : Nat) : Nat :=
  let quotient := num / den
  let twice := 2 * (num % den)
  if twice < den ∨ (twice = den ∧ quotient % 2 = 0) then quotient else quotient + 1

/-- The greatest `k` with `2 ^ k ≤ num / den`, for positive numbers. -/
def floorLog2 (num den : Nat) : Int :=
  let guess : Int := (num.log2 : Int) - den.log2
  let reached :=
    if 0 ≤ guess then den * Nat.pow 2 guess.toNat ≤ num else den ≤ num * Nat.pow 2 (-guess).toNat
  if reached then guess else guess - 1

/-- The smallest exponent of a finite number. -/
def minExponent : Int := -1074

def maxExponent : Int := 971

def ofRatio (negative : Bool) (num den : Nat) : Binary64 :=
  if num = 0 then .finite negative 0 0
  else
    let exponent := max minExponent (floorLog2 num den - 52)
    let significand :=
      if 0 ≤ exponent then roundDiv num (den * Nat.pow 2 exponent.toNat)
      else roundDiv (num * Nat.pow 2 (-exponent).toNat) den
    let (significand, exponent) :=
      if significand = Nat.pow 2 53 then (Nat.pow 2 52, exponent + 1) else (significand, exponent)
    if maxExponent < exponent then .infinite negative
    else .finite negative significand exponent

/-- The number nearest to `digits · 10 ^ exponent`. Beyond the four hundredth power either way
nothing is left to compute. -/
def ofDecimal (negative : Bool) (digits : Nat) (exponent : Int) : Binary64 :=
  let magnitude : Int := (Nat.toDigits 10 digits).length + exponent
  if digits = 0 ∨ magnitude < -400 then .finite negative 0 0
  else if 400 < magnitude then .infinite negative
  else if 0 ≤ exponent then ofRatio negative (digits * Nat.pow 10 exponent.toNat) 1
  else ofRatio negative digits (Nat.pow 10 (-exponent).toNat)

def integer? : Binary64 → Option Int
  | nan | infinite _ => none
  | finite negative significand exponent =>
    let magnitude? : Option Nat :=
      if 0 ≤ exponent then some (significand * Nat.pow 2 exponent.toNat)
      else
        let unit := Nat.pow 2 (-exponent).toNat
        if significand % unit = 0 then some (significand / unit) else none
    magnitude?.map fun n => if negative then -(n : Int) else n

end Binary64
end ImportDepth
