import ImportDepth.Data.Value
import ImportDepth.Text.Digit

/-! Numbers, dates and times in TOML documents. Each reader takes what it can from the beginning of a
text and leaves the rest. -/
namespace ImportDepth.Toml

inductive Fault where
  | malformed
  /-- An integer has more decimal digits than are read. -/
  | oversizedInteger
  deriving DecidableEq, Repr

/-- Digits of a class with single underscores between them, and what follows. The digits come without
the underscores. -/
def readDigits (isDigit : CodePoint → Bool) (digitBefore : Bool) : Text → Text × Text
  | [] => ([], [])
  | c :: rest =>
    if isDigit c then
      let (digits, after) := readDigits isDigit true rest
      (c :: digits, after)
    else if c = '_' ∧ digitBefore ∧ rest.head?.any isDigit then readDigits isDigit false rest
    else ([], c :: rest)

/-- A text after a sign at its beginning, and whether that is a minus. -/
def readSign : Text → Bool × Text
  | [] => (false, [])
  | c :: rest =>
    if c = '-' then (true, rest) else if c = '+' then (false, rest) else (false, c :: rest)

/-- The bases that a letter after a zero announces. -/
def bases : List (CodePoint × Nat) := [('x', 16), ('o', 8), ('b', 2)]

def readBased? : Text → Option (Nat × Text)
  | zero :: letter :: rest =>
    if zero = '0' then
      match bases.lookup letter with
      | none => none
      | some base =>
        let value? := fun c : CodePoint => c.hexValue?.filter (· < base)
        match readDigits (fun c => (value? c).isSome) false rest with
        | ([], _) => none
        | (digits, after) =>
          some (digits.foldl (fun n c => n * base + (value? c).getD 0) 0, after)
    else none
  | _ => none

/-- The digits of the whole part of a decimal number. A zero at their beginning stands alone. -/
def readWhole? : Text → Option (Text × Text)
  | [] => none
  | c :: rest =>
    if c = '0' then some ([c], rest)
    else match readDigits (·.isAsciiDigit) false (c :: rest) with
      | ([], _) => none
      | read => some read

def readFraction? : Text → Option (Text × Text)
  | [] => none
  | c :: rest =>
    if c = '.' then
      match readDigits (·.isAsciiDigit) false rest with
      | ([], _) => none
      | read => some read
    else none

def readExponent? : Text → Option (Int × Text)
  | [] => none
  | c :: rest =>
    if c = 'e' ∨ c = 'E' then
      let (negative, unsigned) := readSign rest
      match readDigits (·.isAsciiDigit) false unsigned with
      | ([], _) => none
      | (digits, after) =>
        let n : Int := Text.decimal digits
        some (if negative then -n else n, after)
    else none

/-- A decimal number. A fraction or an exponent makes it a float. -/
def readDecimal? (t : Text) : Option (Except Fault (Value × Text)) := do
  let (negative, unsigned) := readSign t
  let (whole, rest) ← readWhole? unsigned
  let fraction? := readFraction? rest
  let (fraction, rest) := fraction?.getD ([], rest)
  let exponent? := readExponent? rest
  let (exponent, rest) := exponent?.getD (0, rest)
  if fraction?.isSome || exponent?.isSome then
    some (.ok (.float (Binary64.ofDecimal negative (Text.decimal (whole ++ fraction))
      (exponent - fraction.length)), rest))
  else if Text.maximumDigits < whole.length then some (.error .oversizedInteger)
  else some (.ok (.int (if negative then -(Text.decimal whole : Int) else Text.decimal whole), rest))

def floatWords : List (Text × Binary64) :=
  [("inf", .infinite false), ("nan", .nan), ("-inf", .infinite true), ("+inf", .infinite false),
    ("-nan", .nan), ("+nan", .nan)]

def readNumber? (t : Text) : Option (Except Fault (Value × Text)) :=
  match readBased? t with
  | some (n, rest) => some (.ok (.int n, rest))
  | none =>
    match readDecimal? t with
    | some read => some read
    | none => floatWords.findSome? fun (word, x) =>
      if word.isPrefixOf t then some (.ok (.float x, t.drop word.length)) else none

/-- A number of the given count of digits, from `low` to `high`. -/
def readField? (count low high : Nat) (t : Text) : Option (Nat × Text) :=
  let digits := t.take count
  if digits.length = count ∧ digits.all (·.isAsciiDigit) ∧ low ≤ Text.decimal digits ∧
      Text.decimal digits ≤ high then some (Text.decimal digits, t.drop count)
  else none

def readMark? (mark : CodePoint) : Text → Option Text
  | [] => none
  | c :: rest => if c = mark then some rest else none

def skipFraction (t : Text) : Text :=
  match readMark? '.' t with
  | none => t
  | some rest => if rest.head?.any (·.isAsciiDigit) then rest.dropWhile (·.isAsciiDigit) else t

def skipTime? (t : Text) : Option Text := do
  let (_, t) ← readField? 2 0 23 t
  let (_, t) ← readField? 2 0 59 (← readMark? ':' t)
  let (_, t) ← readField? 2 0 59 (← readMark? ':' t)
  return skipFraction t

/-- What follows a time zone: a letter, or a sign with hours and minutes. -/
def skipZone? : Text → Option Text
  | [] => none
  | c :: rest =>
    if c = 'Z' ∨ c = 'z' then some rest
    else if c = '+' ∨ c = '-' then do
      let (_, t) ← readField? 2 0 23 rest
      let (_, t) ← readField? 2 0 59 (← readMark? ':' t)
      return t
    else none

def skipTimePart? : Text → Option Text
  | [] => none
  | c :: rest =>
    if c = 'T' ∨ c = 't' ∨ c = ' ' then
      (skipTime? rest).map fun after => (skipZone? after).getD after
    else none

def isLeapYear (year : Nat) : Bool :=
  year % 4 = 0 && (year % 100 ≠ 0 || year % 400 = 0)

def daysIn (year month : Nat) : Nat :=
  if month = 2 then if isLeapYear year then 29 else 28
  else if [4, 6, 9, 11].contains month then 30
  else 31

/-- A year, a month and a day, which need not exist. -/
def readDate? (t : Text) : Option ((Nat × Nat × Nat) × Text) := do
  let (year, t) ← readField? 4 0 9999 t
  let (month, t) ← readField? 2 1 12 (← readMark? '-' t)
  let (day, t) ← readField? 2 1 31 (← readMark? '-' t)
  return ((year, month, day), t)

/-- A date, a time of day, or both. There is no year zero. -/
def readMoment? (t : Text) : Option (Except Fault (Value × Text)) :=
  let upTo := fun rest : Text => (Value.moment (t.take (t.length - rest.length)), rest)
  match readDate? t with
  | some ((year, month, day), rest) =>
    if 0 < year ∧ day ≤ daysIn year month then
      some (.ok (upTo ((skipTimePart? rest).getD rest)))
    else some (.error .malformed)
  | none => (skipTime? t).map fun rest => .ok (upTo rest)

end ImportDepth.Toml
