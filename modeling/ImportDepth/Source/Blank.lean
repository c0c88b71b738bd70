import ImportDepth.Source.Cursor

/-! What stands between tokens: blanks and comments. Comments become nodes of their own. A comment in
the style of markup is one only where an operand or a statement could begin; after an operand its
first characters are operators. -/
namespace ImportDepth.Source

/-- The first code point of a byte string with the number of its bytes, if it is well formed. -/
def firstChar? (bytes : Bytes) : Option (CodePoint × Nat) :=
  [1, 2, 3, 4].findSome? fun n =>
    match Utf8.decode? (bytes.take n) with
    | some [c] => some (c, n)
    | _ => none

/-- The code points that separate tokens and mean nothing. -/
def isBlank (c : CodePoint) : Bool :=
  c.inRanges [(0x9, 0xD), (0x20, 0x20), (0x85, 0x85), (0xA0, 0xA0), (0x1680, 0x1680),
    (0x2000, 0x200B), (0x2028, 0x2029), (0x202F, 0x202F), (0x205F, 0x2060), (0x3000, 0x3000),
    (0xFEFF, 0xFEFF)]

/-- The length of a code point of a class at the beginning, or zero. -/
def charLength (p : CodePoint → Bool) (bytes : Bytes) : Nat :=
  match firstChar? bytes with
  | some (c, n) => if p c then n else 0
  | none => 0

/-- The length of the longest beginning made of code points of a class, within a number of them. -/
def spanLength (p : CodePoint → Bool) : Nat → Bytes → Nat
  | 0, _ => 0
  | fuel + 1, bytes =>
    match charLength p bytes with
    | 0 => 0
    | n + 1 => n + 1 + spanLength p fuel (bytes.drop (n + 1))

def blankLength (bytes : Bytes) : Nat := spanLength isBlank bytes.length bytes

/-- U+2028 or U+2029 at the beginning. -/
def startsWithSeparator : Bytes → Bool
  | 0xE2 :: 0x80 :: b :: _ => b = 0xA8 || b = 0xA9
  | _ => false

/-- The length of the rest of a line. A carriage return ends it only if asked to. -/
def lineLength (atReturn : Bool) : Bytes → Nat
  | [] => 0
  | bytes@(b :: rest) =>
    if b = 0x0A || (atReturn && b = 0x0D) || startsWithSeparator bytes then 0
    else lineLength atReturn rest + 1

/-- The length up to and with the end of a block comment whose opening has been read. -/
def blockLength? : Bytes → Option Nat
  | [] => none
  | [_] => none
  | a :: b :: rest =>
    if a = 0x2A ∧ b = 0x2F then some 2 else (blockLength? (b :: rest)).map (· + 1)

def commentLength? : Bytes → Option Nat
  | a :: b :: rest =>
    if a = 0x2F ∧ b = 0x2F then some (lineLength true rest + 2)
    else if a = 0x2F ∧ b = 0x2A then (blockLength? rest).map (· + 2)
    else none
  | _ => none

def markupCommentLength? (bytes : Bytes) : Option Nat :=
  if (Utf8.ascii "<!--").isPrefixOf bytes || (Utf8.ascii "-->").isPrefixOf bytes then
    some (lineLength false bytes)
  else none

/-- A node without children for bytes of a length that are read here. -/
def readLeaf (kind : String) (named : Bool) (length : Nat)
    (short : named = true → kind = "html_character_reference" → length ≤ Node.longestReference := by simp) :
    Parser Tree := do
  let start ← Parser.position
  let bytes ← Parser.rest
  Parser.skip length
  let leaf : Node :=
    { kind := kind, text := bytes.take length, named := named, span := ⟨start, ← Parser.position⟩ }
  let fits : leaf.IsShort := fun isNamed isReference =>
    Nat.le_trans (List.length_take_le length bytes) (short isNamed isReference)
  return .withChildren leaf fits []

/-- One comment, after blanks. -/
def comment (withMarkup : Bool) : Rule := do
  let bytes ← Parser.rest
  let blank := blankLength bytes
  let bytes := bytes.drop blank
  match commentLength? bytes with
  | some n =>
    Parser.skip blank
    return [← readLeaf "comment" true n]
  | none =>
    match if withMarkup then markupCommentLength? bytes else none with
    | some n =>
      Parser.skip blank
      return [← readLeaf "html_comment" true n]
    | none => failure

def skipBlanks : Rule := do
  Parser.skip (blankLength (← Parser.rest))
  return []

/-- Everything up to the next token where an operand may begin. -/
def trivia : Rule := Rule.many (comment true) ++ skipBlanks

/-- Everything up to the next token after an operand. -/
def innerTrivia : Rule := Rule.many (comment false) ++ skipBlanks

end ImportDepth.Source
