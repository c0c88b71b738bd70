import ImportDepth.Toml.Scalar

/-! Strings, keys and comments in TOML documents. -/
namespace ImportDepth.Toml

/-- What was read from the beginning of a text, and what follows it. -/
abbrev Reading (α : Type) := α × Text

/-- Control characters, of which only the tab may stand in strings and comments. -/
def isControl (c : CodePoint) : Bool := (c.val < 0x20 || c.val = 0x7F) && c ≠ '\t'

def isSpace (c : CodePoint) : Bool := c = ' ' || c = '\t'

def isSpaceOrLine (c : CodePoint) : Bool := isSpace c || c = '\n'

def skipSpace (t : Text) : Text := t.dropWhile isSpace

/-- What follows a comment, if there is one: the end of its line. -/
def skipComment : Text → Except Fault Text
  | [] => .ok []
  | c :: rest =>
    if c = '#' then
      let comment := rest.takeWhile fun d => d ≠ ('\n' : CodePoint)
      if comment.any isControl then .error .malformed else .ok (rest.drop comment.length)
    else .ok (c :: rest)

/-- What follows blanks, line ends and comments. The number bounds the comments. -/
def skipLines : Nat → Text → Except Fault Text
  | 0, t => .ok t
  | fuel + 1, t => do
    let after ← skipComment (t.dropWhile isSpaceOrLine)
    if after.length = t.length then return t else skipLines fuel after

/-- A code point that a number of hexadecimal digits spells; surrogates are refused. -/
def readHex (count : Nat) (t : Text) : Except Fault (Reading CodePoint) :=
  let digits := (t.take count).filterMap (·.hexValue?)
  match CodePoint.ofNat? (digits.foldl (fun n d => n * 16 + d) 0) with
  | some c =>
    if digits.length = count ∧ ¬c.IsSurrogate then .ok (c, t.drop count) else .error .malformed
  | none => .error .malformed

def shortEscapes : List (CodePoint × CodePoint) :=
  [('b', '\x08'), ('t', '\t'), ('n', '\n'), ('f', '\x0c'), ('r', '\r'), ('"', '"'), ('\\', '\\')]

def readEscape : Text → Except Fault (Reading CodePoint)
  | [] => .error .malformed
  | c :: rest =>
    if c = 'u' then readHex 4 rest
    else if c = 'U' then readHex 8 rest
    else match shortEscapes.lookup c with
      | some meant => .ok (meant, rest)
      | none => .error .malformed

/-- What follows a backslash at the end of a line and the blanks and line ends after it. -/
def skipContinuation? (t : Text) : Option Text :=
  match skipSpace t with
  | c :: rest => if c = '\n' then some (rest.dropWhile isSpaceOrLine) else none
  | [] => none

/-- A string on one line, up to its closing quote. The number bounds the reading. -/
def readBasic : Nat → Text → Except Fault (Reading Text)
  | 0, _ => .error .malformed
  | _ + 1, [] => .error .malformed
  | fuel + 1, c :: rest =>
    if c = '"' then .ok ([], rest)
    else if c = '\\' then do
      let (meant, rest) ← readEscape rest
      let (others, rest) ← readBasic fuel rest
      return (meant :: others, rest)
    else if isControl c then .error .malformed
    else do
      let (others, rest) ← readBasic fuel rest
      return (c :: others, rest)

/-- A string over several lines, up to three closing quotes. -/
def readBasicLines : Nat → Text → Except Fault (Reading Text)
  | 0, _ => .error .malformed
  | _ + 1, [] => .error .malformed
  | fuel + 1, c :: rest =>
    if ("\"\"\"" : Text).isPrefixOf (c :: rest) then .ok ([], rest.drop 2)
    else if c = '\\' then
      match skipContinuation? rest with
      | some rest => readBasicLines fuel rest
      | none => do
        let (meant, rest) ← readEscape rest
        let (others, rest) ← readBasicLines fuel rest
        return (meant :: others, rest)
    else if isControl c ∧ c ≠ '\n' then .error .malformed
    else do
      let (others, rest) ← readBasicLines fuel rest
      return (c :: others, rest)

def readLiteral (t : Text) : Except Fault (Reading Text) :=
  let content := t.takeWhile fun c => c ≠ ('\'' : CodePoint)
  if content.length < t.length ∧ !content.any isControl then
    .ok (content, t.drop (content.length + 1))
  else .error .malformed

def readLiteralLines : Text → Except Fault (Reading Text)
  | [] => .error .malformed
  | c :: rest =>
    if ("'''" : Text).isPrefixOf (c :: rest) then .ok ([], rest.drop 2)
    else if isControl c ∧ c ≠ '\n' then .error .malformed
    else do
      let (others, rest) ← readLiteralLines rest
      return (c :: others, rest)

/-- A string with the one or two quotes that may precede the three that close it. -/
def withExtraQuotes (quote : CodePoint) (read : Reading Text) : Reading Text :=
  let extra := (read.2.take 2).takeWhile (· = quote)
  (read.1 ++ extra, read.2.drop extra.length)

def dropFirstLine (t : Text) : Text := if t.head? = some '\n' then t.drop 1 else t

def readString? (t : Text) : Option (Except Fault (Reading Text)) :=
  if ("\"\"\"" : Text).isPrefixOf t then
    some ((readBasicLines (t.length + 1) (dropFirstLine (t.drop 3))).map (withExtraQuotes '"'))
  else if ("'''" : Text).isPrefixOf t then
    some ((readLiteralLines (dropFirstLine (t.drop 3))).map (withExtraQuotes '\''))
  else match t with
    | c :: rest =>
      if c = '"' then some (readBasic (t.length + 1) rest)
      else if c = '\'' then some (readLiteral rest)
      else none
    | [] => none

def isBare (c : CodePoint) : Bool :=
  c.isAsciiDigit || (0x41 ≤ c.val && c.val ≤ 0x5A) || (0x61 ≤ c.val && c.val ≤ 0x7A) ||
    c = '-' || c = '_'

def readKeyPart (t : Text) : Except Fault (Reading Text) :=
  match t with
  | [] => .error .malformed
  | c :: rest =>
    if isBare c then .ok (t.takeWhile isBare, t.dropWhile isBare)
    else if c = '\'' then readLiteral rest
    else if c = '"' then readBasic (t.length + 1) rest
    else .error .malformed

/-- A key with points between its parts, and blanks around them. The number bounds the parts. -/
def readKey : Nat → Text → Except Fault (Reading (List Text))
  | 0, _ => .error .malformed
  | fuel + 1, t => do
    let (part, rest) ← readKeyPart t
    match skipSpace rest with
    | [] => return ([part], [])
    | c :: rest =>
      if c = '.' then
        let (parts, rest) ← readKey fuel (skipSpace rest)
        return (part :: parts, rest)
      else return ([part], c :: rest)

end ImportDepth.Toml
