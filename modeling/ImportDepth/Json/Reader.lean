import ImportDepth.Data.Value
import ImportDepth.Text.Digit

/-! Reading JSON. A number without fraction and exponent is an integer of any size, and any other is
rounded to double precision. An escaped pair of surrogates is one code point, and a surrogate without
its partner stays one. A repeated key keeps its first place and its last value. -/
namespace ImportDepth.Json

def isSpace (c : CodePoint) : Bool := [0x20, 0x9, 0xA, 0xD].contains c.val

def skipSpace (t : Text) : Text := t.dropWhile isSpace

/-- The code point of four hexadecimal digits. -/
def unit? (a b c d : CodePoint) : Option CodePoint := do
  CodePoint.ofNat? (((← a.hexValue?) * 16 + (← b.hexValue?)) * 256 +
    ((← c.hexValue?) * 16 + (← d.hexValue?)))

def shortEscapes : List (CodePoint × CodePoint) :=
  [('"', '"'), ('\\', '\\'), ('/', '/'), ('b', '\x08'), ('f', '\x0c'), ('n', '\n'), ('r', '\r'),
    ('t', '\t')]

/-- The code points of a string up to its closing quote, and what follows the quote. -/
def readUnits? : Text → Option (Text × Text)
  | [] => none
  | c :: rest =>
    if c = '"' then some ([], rest)
    else if c = '\\' then
      match rest with
      | [] => none
      | e :: after =>
        if e = 'u' then
          match after with
          | a :: b :: c :: d :: after =>
            match unit? a b c d, readUnits? after with
            | some u, some (units, remaining) => some (u :: units, remaining)
            | _, _ => none
          | _ => none
        else
          match shortEscapes.lookup e, readUnits? after with
          | some u, some (units, remaining) => some (u :: units, remaining)
          | _, _ => none
    else if c.val < 0x20 then none
    else match readUnits? rest with
      | some (units, remaining) => some (c :: units, remaining)
      | none => none

def paired? (high low : CodePoint) : Option CodePoint :=
  if 0xD800 ≤ high.val ∧ high.val < 0xDC00 ∧ 0xDC00 ≤ low.val ∧ low.val < 0xE000 then
    CodePoint.ofNat? (0x10000 + (high.val - 0xD800) * 0x400 + (low.val - 0xDC00))
  else none

/-- Text with each high surrogate joined to a low one right after it. -/
def joinSurrogates : Text → Text
  | high :: low :: rest =>
    match paired? high low with
    | some c => c :: joinSurrogates rest
    | none => high :: joinSurrogates (low :: rest)
  | t => t

/-- A string whose opening quote has been read. -/
def readString? (t : Text) : Option (Text × Text) :=
  (readUnits? t).map fun (units, rest) => (joinSurrogates units, rest)

/-- The digits of a fraction and what follows them; no point, no digits. -/
def readFraction? (t : Text) : Option (Text × Text) :=
  match t with
  | c :: rest =>
    if c = '.' then
      let digits := rest.takeWhile (·.isAsciiDigit)
      if digits = [] then none else some (digits, rest.drop digits.length)
    else some ([], t)
  | [] => some ([], t)

def readExponent? (t : Text) : Option (Option Int × Text) :=
  match t with
  | c :: rest =>
    if c = 'e' ∨ c = 'E' then
      let (negative, unsigned) := match rest with
        | s :: more =>
          if s = '-' then (true, more) else if s = '+' then (false, more) else (false, rest)
        | [] => (false, rest)
      let digits := unsigned.takeWhile (·.isAsciiDigit)
      if digits = [] then none
      else
        let n : Int := Text.decimal digits
        some (some (if negative then -n else n), unsigned.drop digits.length)
    else some (none, t)
  | [] => some (none, t)

/-- An unsigned number. A zero is not followed by a further digit. -/
def readNumber? (negative : Bool) (t : Text) : Option (Value × Text) := do
  let whole := t.takeWhile (·.isAsciiDigit)
  let whole := if whole.head? = some '0' then whole.take 1 else whole
  if whole = [] then none
  else
    let (fraction, rest) ← readFraction? (t.drop whole.length)
    let (exponent, rest) ← readExponent? rest
    if fraction = [] ∧ exponent = none then
      let n : Int := Text.decimal whole
      some (.int (if negative then -n else n), rest)
    else
      let shift : Int := exponent.getD 0 - fraction.length
      some (.float (Binary64.ofDecimal negative (Text.decimal (whole ++ fraction)) shift), rest)

/-- The words that are values. The last three name numbers that have no digits. -/
def words : List (Text × Value) :=
  [("null", .null), ("true", .bool true), ("false", .bool false), ("NaN", .float .nan),
    ("Infinity", .float (.infinite false)), ("-Infinity", .float (.infinite true))]

def readWord? (t : Text) : Option (Value × Text) :=
  words.findSome? fun (word, value) =>
    if word.isPrefixOf t then some (value, t.drop word.length) else none

mutual

/-- A value at the beginning of the text, and what follows it. The number bounds the reading. -/
def readValue? : Nat → Text → Option (Value × Text)
  | 0, _ => none
  | fuel + 1, t =>
    match skipSpace t with
    | [] => none
    | c :: rest =>
      if c = '"' then (readString? rest).map fun (s, rest) => (.text s, rest)
      else if c = '[' then
        match skipSpace rest with
        | d :: after =>
          if d = ']' then some (.list [], after)
          else (readItems? fuel rest).map fun (items, rest) => (.list items, rest)
        | [] => none
      else if c = '{' then
        match skipSpace rest with
        | d :: after =>
          if d = '}' then some (.table [], after)
          else (readEntries? fuel [] rest).map fun (entries, rest) => (.table entries, rest)
        | [] => none
      else
        (readWord? (c :: rest)).orElse fun _ =>
          if c = '-' then readNumber? true rest else readNumber? false (c :: rest)

def readItems? : Nat → Text → Option (List Value × Text)
  | 0, _ => none
  | fuel + 1, t => do
    let (item, rest) ← readValue? fuel t
    match skipSpace rest with
    | c :: rest =>
      if c = ',' then
        let (items, rest) ← readItems? fuel rest
        some (item :: items, rest)
      else if c = ']' then some ([item], rest)
      else none
    | [] => none

def readEntries? : Nat → List (Text × Value) → Text → Option (List (Text × Value) × Text)
  | 0, _, _ => none
  | fuel + 1, entries, t =>
    match skipSpace t with
    | c :: rest =>
      if c = '"' then do
        let (key, rest) ← readString? rest
        match skipSpace rest with
        | d :: rest =>
          if d = ':' then
            let (value, rest) ← readValue? fuel rest
            let entries := Value.assign entries key value
            match skipSpace rest with
            | e :: rest =>
              if e = ',' then readEntries? fuel entries rest
              else if e = '}' then some (entries, rest)
              else none
            | [] => none
          else none
        | [] => none
      else none
    | [] => none

end

def read? (t : Text) : Option Value :=
  match readValue? (t.length + 1) t with
  | some (value, rest) => if skipSpace rest = [] then some value else none
  | none => none

end ImportDepth.Json
