import ImportDepth.Dialect
import ImportDepth.Source.Token

/-! The end of a statement. A semicolon may be left out at the end of the source, before a closing
brace and at a line break, unless the next line continues the statement. The dialects differ in how
comments count. An inserted semicolon has no width and stands where it was found to be needed, so a
statement may reach over comments that were read on the way to it. -/
namespace ImportDepth.Source

/-- The blanks that the search for a line break passes over. -/
def isSpace (c : CodePoint) : Bool :=
  c.inRanges [(0x9, 0xD), (0x20, 0x20), (0x1680, 0x1680), (0x2000, 0x2006), (0x2008, 0x200A),
    (0x2028, 0x2029), (0x205F, 0x205F), (0x3000, 0x3000)]

def spaceLength (bytes : Bytes) : Nat := charLength isSpace bytes

def skipSpaces (bytes : Bytes) : Bytes := bytes.drop (spanLength isSpace bytes.length bytes)

def startsWithLineBreak (bytes : Bytes) : Bool :=
  bytes.head? = some 0x0A || startsWithSeparator bytes

/-- Whether some line breaks in a block comment of the given length. -/
def breaksWithin : Nat → Bytes → Bool
  | 0, _ => false
  | _, [] => false
  | n + 1, bytes@(_ :: rest) => startsWithLineBreak bytes || breaksWithin n rest

inductive Passage where
  /-- At a slash that begins no comment. -/
  | blocked
  /-- After a block comment on one line. -/
  | sameLine (rest : Bytes)
  /-- At a token, or after a block comment over several lines. -/
  | passed (rest : Bytes)

/-- The passage over blanks and comments. Unless all of them are to be passed over, it ends after a
block comment that no further slash follows. -/
def passage (all : Bool) (broken : Bool) : Nat → Bytes → Passage
  | 0, bytes => .passed bytes
  | fuel + 1, bytes =>
    let bytes := skipSpaces bytes
    match bytes with
    | 0x2F :: 0x2F :: rest => passage all broken fuel (rest.drop (lineLength false rest))
    | 0x2F :: 0x2A :: rest =>
      match blockLength? rest with
      | none => .passed []
      | some n =>
        let broken := broken || breaksWithin n rest
        let rest := rest.drop n
        if rest.head? ≠ some 0x2F ∧ !all then (if broken then .passed rest else .sameLine rest)
        else passage all broken fuel rest
    | 0x2F :: _ => .blocked
    | _ => .passed bytes

/-- Whether the line that begins with these bytes cannot continue the statement before it.
`operatorNext` says that an operator could come next. -/
def beginsAnew (dialect : Dialect) (operatorNext : Bool) (bytes : Bytes) : Bool :=
  match bytes with
  | [] => true
  | b :: rest =>
    let continues := match dialect with
      | .javascript => "`,:;*%><=[(?^|&/"
      | .typescript | .tsx => if operatorNext then "`,.;*%><=?^|&/:[(" else "`,.;*%><=?^|&/:"
    if (Utf8.ascii continues).contains b then false
    else if b = 0x2E then rest.head?.any isDigit
    else if b = 0x2B then rest.head? = some 0x2B
    else if b = 0x2D then rest.head? = some 0x2D
    else if b = 0x21 then rest.head? ≠ some 0x3D
    else !(["in", "instanceof"].any fun operator =>
      (Utf8.ascii operator).isPrefixOf bytes &&
        !(bytes.drop operator.length).head?.any fun next => isLetter next || 0x80 ≤ next)

/-- The search for the end of a statement from just after a token: whether a semicolon is to be
inserted. -/
def insertsSemicolon (dialect : Dialect) (operatorNext : Bool) : Nat → Bytes → Bool
  | 0, _ => true
  | fuel + 1, bytes =>
    let afterBreak := fun bytes : Bytes =>
      match passage true false (bytes.length + 1) bytes with
      | .blocked => false
      | .sameLine rest | .passed rest => beginsAnew dialect operatorNext rest
    let onLine := fun bytes : Bytes =>
      if startsWithLineBreak bytes then afterBreak bytes
      else if spaceLength bytes = 0 then false
      else insertsSemicolon dialect operatorNext fuel (bytes.drop (spaceLength bytes))
    match bytes with
    | [] => true
    | 0x7D :: rest =>
      dialect = .javascript || operatorNext || (skipSpaces rest).head? ≠ some 0x3A
    | 0x2F :: _ =>
      if dialect ≠ .javascript then false
      else match passage false false (bytes.length + 1) bytes with
        | .blocked => false
        | .sameLine rest => if rest.head? = some 0x7D then true else onLine rest
        | .passed rest =>
          if !operatorNext ∧ rest.head? ≠ some 0x2C ∧ rest.head? ≠ some 0x3D then true
          else if rest.head? = some 0x7D then true
          else onLine rest
    | _ => onLine bytes

/-- Whether the statement that was just read ends here without a semicolon. -/
def endsHere (dialect : Dialect) (operatorNext : Bool) : Parser Bool := do
  let bytes ← Parser.rest
  return insertsSemicolon dialect operatorNext (bytes.length + 1) bytes

/-- The end of a statement: comments up to a semicolon that is written or inserted. The number bounds
how many comments are read. -/
def semicolonWithin (dialect : Dialect) (operatorNext : Bool) : Nat → Rule
  | 0 => Rule.none
  | fuel + 1 => do
    if ← endsHere dialect operatorNext then return []
    else
      match ← Parser.ahead? (comment false) with
      | none => Rule.optional (innerMark ";")
      | some _ =>
        let comments ← comment false
        Parser.endToken
        return comments ++ (← semicolonWithin dialect operatorNext fuel)

/-- The end of an import or export. -/
def semicolon (dialect : Dialect) (operatorNext : Bool) : Rule := do
  semicolonWithin dialect operatorNext (← Parser.rest).length

/-- The end of any other statement, whose extent nothing depends on. -/
def looseSemicolon : Rule := Rule.optional (innerMark ";")

end ImportDepth.Source
