import ImportDepth.Toml.Document
import ImportDepth.Toml.String

/-! Reading TOML documents. -/
namespace ImportDepth.Toml

def skipEquals : Text → Except Fault Text
  | [] => .error .malformed
  | c :: rest => if c = '=' then .ok (skipSpace rest) else .error .malformed

def orMalformed {α : Type} : Option α → Except Fault α
  | some a => .ok a
  | none => .error .malformed

def readWord? (t : Text) : Option (Reading Value) :=
  if ("true" : Text).isPrefixOf t then some (.bool true, t.drop 4)
  else if ("false" : Text).isPrefixOf t then some (.bool false, t.drop 5)
  else none

def readScalar (t : Text) : Except Fault (Reading Value) :=
  match readString? t with
  | some read => read.map fun (content, rest) => (.text content, rest)
  | none =>
    match readWord? t with
    | some read => .ok read
    | none => ((readMoment? t).orElse fun _ => readNumber? t).getD (.error .malformed)

mutual

/-- A value at the beginning of a text. The number bounds the reading. -/
def readValue : Nat → Text → Except Fault (Reading Value)
  | 0, _ => .error .malformed
  | fuel + 1, t =>
    match t with
    | [] => .error .malformed
    | c :: rest =>
      if c = '[' then (readItems fuel [] rest).map fun (items, rest) => (.list items, rest)
      else if c = '{' then
        match skipSpace rest with
        | d :: after =>
          if d = '}' then .ok (.table [], after)
          else (readEntries fuel {} (d :: after)).map fun (entries, rest) => (.table entries, rest)
        | [] => .error .malformed
      else readScalar t

/-- The items of a list up to its closing bracket, after those that are already read. A comma may follow
the last one. -/
def readItems : Nat → List Value → Text → Except Fault (Reading (List Value))
  | 0, _, _ => .error .malformed
  | fuel + 1, items, t => do
    let t ← skipLines t.length t
    if t.head? = some ']' then return (items, t.drop 1)
    let (item, rest) ← readValue fuel t
    let items := items ++ [item]
    match ← skipLines rest.length rest with
    | c :: rest =>
      if c = ']' then return (items, rest)
      else if c = ',' then readItems fuel items rest
      else throw .malformed
    | [] => throw .malformed

def readEntries : Nat → InlineTable → Text → Except Fault (Reading Entries)
  | 0, _, _ => .error .malformed
  | fuel + 1, table, t => do
    let (key, rest) ← readKey (t.length + 1) t
    let (value, rest) ← readValue fuel (← skipEquals rest)
    let table ← orMalformed (table.insert key value)
    match skipSpace rest with
    | c :: rest =>
      if c = '}' then return (table.entries, rest)
      else if c = ',' then readEntries fuel table (skipSpace rest)
      else throw .malformed
    | [] => throw .malformed

end

/-- A table header, its brackets included, and the document after it. -/
def readHeader (d : Document) (t : Text) : Except Fault (Reading Document) := do
  let isItem := ("[[" : Text).isPrefixOf t
  let (path, rest) ← readKey (t.length + 1) (skipSpace (t.drop (if isItem then 2 else 1)))
  let d ← orMalformed (if isItem then d.leave.openItem path else d.leave.openTable path)
  let closing : Text := if isItem then "]]" else "]"
  if closing.isPrefixOf rest then return (d, rest.drop closing.length) else throw .malformed

def readPair (d : Document) (t : Text) : Except Fault (Reading Document) := do
  let (key, rest) ← readKey (t.length + 1) t
  let (value, rest) ← readValue (t.length + 1) (← skipEquals rest)
  return (← orMalformed (d.insert key value), rest)

/-- What a line holds before its comment. -/
def readStatement (d : Document) : Text → Except Fault (Reading Document)
  | [] => .ok (d, [])
  | c :: rest =>
    if c = '#' ∨ c = '\n' then .ok (d, c :: rest)
    else if c = '[' then readHeader d (c :: rest)
    else readPair d (c :: rest)

def readLines : Nat → Document → Text → Except Fault Document
  | 0, _, _ => .error .malformed
  | fuel + 1, d, t => do
    let (d, rest) ← readStatement d (skipSpace t)
    match ← skipComment (skipSpace rest) with
    | [] => return d
    | c :: rest => if c = '\n' then readLines fuel d rest else throw .malformed

/-- Text with a line feed in place of each carriage return that one follows. -/
def unifyLineEnds : Text → Text
  | c :: d :: rest =>
    if c = '\r' ∧ d = '\n' then d :: unifyLineEnds rest else c :: unifyLineEnds (d :: rest)
  | t => t

def read (t : Text) : Except Fault Value := do
  let unified := unifyLineEnds t
  return .table (← readLines (unified.length + 1) {} unified).entries

end ImportDepth.Toml
