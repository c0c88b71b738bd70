import ImportDepth.Data.Value
import ImportDepth.Text.Integer

/-! Taking typed data out of values. Coercion is lenient: a number may be written as a string, a
truth value as a number or a word. What cannot be taken is an issue at a place, and all issues of a
value are collected. -/
namespace ImportDepth

inductive Key where
  | name (key : Text)
  | index (i : Nat)
  deriving DecidableEq

inductive Problem where
  | notTable
  | missing
  | unknownKey
  | notInteger
  | unreadableInteger
  | oversizedInteger
  | fractional
  | notFinite
  | negative
  | notBoolean
  | unreadableBoolean
  | notList
  | notText
  | unsupportedExtension (written : Text)
  deriving DecidableEq

structure Issue where
  place : List Key
  problem : Problem
  deriving DecidableEq

namespace Issue

/-- The same issue, seen from a value that holds the part under a key. -/
def under (key : Key) (issue : Issue) : Issue := { issue with place := key :: issue.place }

end Issue

/-- Data, or everything that is wrong with the value that it should come from. -/
abbrev Checked (α : Type) := Except (List Issue) α

namespace Checked

def reject {α : Type} (problem : Problem) : Checked α := .error [⟨[], problem⟩]

def under {α : Type} (key : Key) (checked : Checked α) : Checked α :=
  checked.mapError (·.map (Issue.under key))

def both {α β : Type} (first : Checked α) (second : Checked β) : Checked (α × β) :=
  match first, second with
  | .ok a, .ok b => .ok (a, b)
  | .ok _, .error issues => .error issues
  | .error issues, .ok _ => .error issues
  | .error issues, .error more => .error (issues ++ more)

def all {α : Type} (index : Nat) : List (Checked α) → Checked (List α)
  | [] => .ok []
  | first :: rest =>
    (both (under (.index index) first) (all (index + 1) rest)).map fun (a, as) => a :: as

end Checked

namespace Text

/-- ASCII digits with single underscores between them, as a number. -/
def groupedDigits? (digitBefore : Bool) (value : Nat) : Text → Option Nat
  | [] => if digitBefore then some value else none
  | c :: rest =>
    if c = '_' then if digitBefore then groupedDigits? false value rest else none
    else if c.isAsciiDigit then groupedDigits? true (value * 10 + (c.val - 0x30)) rest
    else none

def withoutZeroFraction (t : Text) : Text :=
  let whole := t.takeWhile fun c => c ≠ ('.' : CodePoint)
  let zeros := t.drop (whole.length + 1)
  if whole.length < t.length ∧ zeros ≠ [] ∧ zeros.all (· = '0') then whole else t

/-- The integer that a string stands for: a sign, digits, and perhaps a fraction of zeros. -/
def laxInteger? (t : Text) : Option Int :=
  match withoutZeroFraction (t.trim surroundsInteger) with
  | [] => none
  | c :: rest =>
    if c = '-' then (groupedDigits? false 0 rest).map fun n => -(n : Int)
    else if c = '+' then (groupedDigits? false 0 rest).map Int.ofNat
    else (groupedDigits? false 0 (c :: rest)).map Int.ofNat

def asciiLower (t : Text) : Text :=
  t.map fun c => if 0x41 ≤ c.val ∧ c.val ≤ 0x5A then (CodePoint.ofNat? (c.val + 0x20)).getD c else c

end Text

namespace Value

/-- The longest string that is read as an integer. -/
def maximumIntegerLength : Nat := 4300

/-- The integer that a value stands for. A float stands for one below the largest power of two that a
signed word of 64 bits cannot hold. -/
def toInteger : Value → Checked Int
  | .int n => .ok n
  | .bool b => .ok (if b then 1 else 0)
  | .float x =>
    match x, x.integer? with
    | .nan, _ | .infinite _, _ => Checked.reject .notFinite
    | _, none => Checked.reject .fractional
    | _, some n => if n.natAbs < Nat.pow 2 63 then .ok n else Checked.reject .oversizedInteger
  | .text t =>
    if maximumIntegerLength < t.length then Checked.reject .oversizedInteger
    else match t.laxInteger? with
      | some n => .ok n
      | none => Checked.reject .unreadableInteger
  | _ => Checked.reject .notInteger

def booleanWords : List (Text × Bool) :=
  [("true", true), ("t", true), ("yes", true), ("y", true), ("on", true), ("1", true),
    ("false", false), ("f", false), ("no", false), ("n", false), ("off", false), ("0", false)]

def toBoolean : Value → Checked Bool
  | .bool b => .ok b
  | .int n =>
    if n = 0 then .ok false else if n = 1 then .ok true else Checked.reject .unreadableBoolean
  | .float x =>
    match x.integer? with
    | some 0 => .ok false
    | some 1 => .ok true
    | _ => Checked.reject .notBoolean
  | .text t =>
    match booleanWords.lookup t.asciiLower with
    | some b => .ok b
    | none => Checked.reject .unreadableBoolean
  | _ => Checked.reject .notBoolean

def toText : Value → Checked Text
  | .text t => .ok t
  | _ => Checked.reject .notText

def toListOf {α : Type} (item : Value → Checked α) : Value → Checked (List α)
  | .list items => Checked.all 0 (items.map item)
  | _ => Checked.reject .notList

def required {α : Type} (entries : List (Text × Value)) (key : Text) (take : Value → Checked α) :
    Checked α :=
  Checked.under (.name key) (match entries.lookup key with
    | some v => take v
    | none => Checked.reject .missing)

def optional {α : Type} (entries : List (Text × Value)) (key : Text) (default : α)
    (take : Value → Checked α) : Checked α :=
  match entries.lookup key with
  | some v => Checked.under (.name key) (take v)
  | none => .ok default

end Value
end ImportDepth
