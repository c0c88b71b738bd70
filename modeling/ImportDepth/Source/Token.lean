import ImportDepth.Source.Blank

/-! Tokens: punctuators, words, numbers, regular expressions and the pieces of strings. A token first
reads what stands before it. Punctuators are always read at full length, so that `=` is never the
beginning of `=>`. -/
namespace ImportDepth.Source

/-- All punctuators, longer ones before their beginnings. -/
def punctuators : List Bytes :=
  [">>>=", "...", "===", "!==", "**=", "<<=", ">>=", ">>>", "&&=", "||=", "??=", "=>", "==", "!=",
    "<=", ">=", "&&", "||", "??", "?.", "++", "--", "+=", "-=", "*=", "/=", "%=", "&=", "|=", "^=",
    "<<", ">>", "**", "\x7b", "\x7d", "(", ")", "[", "]", ";", ",", "<", ">", "+", "-", "*", "/",
    "%", "&", "|", "^", "!", "~", "?", ":", "=", ".", "@", "#"].map Utf8.ascii

def isDigit (b : UInt8) : Bool := 0x30 ≤ b && b ≤ 0x39

def isHexDigit (b : UInt8) : Bool :=
  isDigit b || (0x41 ≤ b && b ≤ 0x46) || (0x61 ≤ b && b ≤ 0x66)

/-- The punctuator at the beginning. A question mark before a decimal fraction stands alone. -/
def punctuatorAt? (bytes : Bytes) : Option Bytes :=
  let longest? := punctuators.find? (·.isPrefixOf bytes)
  if longest? = some (Utf8.ascii "?.") ∧ (bytes.drop 2).head?.any isDigit then
    some (Utf8.ascii "?")
  else longest?

def isNameMember (c : CodePoint) : Bool :=
  !isBlank c && 0x20 ≤ c.val &&
    !(Text.ofString ":;`\"'@#.,|^&<=>+-*/\\%?!~()[]\x7b\x7d").contains c

/-- The length of a code point that is written as an escape in a name. -/
def nameEscapeLength : Bytes → Nat
  | 0x5C :: 0x75 :: 0x7B :: rest =>
    let digits := rest.takeWhile isHexDigit
    if digits ≠ [] ∧ (rest.drop digits.length).head? = some 0x7D then digits.length + 4 else 0
  | 0x5C :: 0x75 :: rest => if (rest.take 4).length = 4 ∧ (rest.take 4).all isHexDigit then 6 else 0
  | _ => 0

/-- The length of the longest beginning that could continue a name. -/
def nameTailLength : Nat → Bytes → Nat
  | 0, _ => 0
  | fuel + 1, bytes =>
    match max (charLength isNameMember bytes) (nameEscapeLength bytes) with
    | 0 => 0
    | n + 1 => n + 1 + nameTailLength fuel (bytes.drop (n + 1))

/-- The length of the name at the beginning, or zero. A name does not start with a digit. -/
def nameLength (bytes : Bytes) : Nat :=
  if bytes.head?.any isDigit then 0 else nameTailLength bytes.length bytes

/-- The name at the beginning as a string, if all of it is ASCII. -/
def wordAt (bytes : Bytes) : String :=
  String.ofList ((bytes.take (nameLength bytes)).map fun b => Char.ofNat b.toNat)

/-- A leaf of the given length. Where the length is zero there is no such token. -/
def token (kind : String) (named : Bool) (length : Bytes → Nat) (before : Rule)
    (short : named = true → kind = "html_character_reference" →
      ∀ bytes, length bytes ≤ Node.longestReference := by simp) : Rule := do
  let before ← before
  let bytes ← Parser.rest
  Parser.guard (length bytes ≠ 0)
  let leaf ← readLeaf kind named (length bytes) fun named kind => short named kind bytes
  Parser.endToken
  return before ++ [leaf]

def markLength (mark : String) (bytes : Bytes) : Nat :=
  if (Utf8.ascii mark).isPrefixOf bytes ∧ punctuatorAt? bytes = some (Utf8.ascii mark) then
    mark.length
  else 0

/-- A punctuator where an operand may begin. -/
def mark (m : String) : Rule := token m false (markLength m) trivia

/-- A punctuator after an operand. -/
def innerMark (m : String) : Rule := token m false (markLength m) innerTrivia

/-- The closing angle of a list of types, even where more angles or an equals sign follow it. -/
def closingAngle : Rule :=
  token ">" false (fun bytes => if bytes.head? = some 0x3E then 1 else 0) trivia

def keywordLength (k : String) (bytes : Bytes) : Nat :=
  if (Utf8.ascii k).isPrefixOf bytes ∧ nameLength bytes = k.length then k.length else 0

def keyword (k : String) : Rule := token k false (keywordLength k) trivia

def innerKeyword (k : String) : Rule := token k false (keywordLength k) innerTrivia

def reservedWords : List String :=
  ["break", "case", "catch", "class", "const", "continue", "debugger", "default", "delete", "do",
    "else", "enum", "export", "extends", "false", "finally", "for", "function", "if", "import", "in",
    "instanceof", "new", "null", "return", "super", "switch", "this", "throw", "true", "try",
    "typeof", "var", "void", "while", "with"]

def anyName (kind : String) (other : isCharacterReference kind = false := by exact Eq.refl false) : Rule :=
  token kind true nameLength trivia fun _ same => absurd same (of_decide_eq_false other)

def identifier (kind : String) (other : isCharacterReference kind = false := by exact Eq.refl false) : Rule :=
  token kind true
    (fun bytes => if reservedWords.contains (wordAt bytes) then 0 else nameLength bytes) trivia
    fun _ same => absurd same (of_decide_eq_false other)

/-- The next word with nothing read, or the empty string. -/
def nextWord : Parser String := do
  let _ ← trivia
  return wordAt (← Parser.rest)

def peekWord : Parser String := do return (← Parser.ahead? nextWord).getD ""

def isAt (m : String) : Parser Bool := Parser.isAhead (mark m)

def isAtOneOf (ms : List String) : Parser Bool := Parser.isAhead (Rule.oneOf (ms.map mark))

/-- Whether the next token begins on the line where the last one ended. -/
def onSameLine : Parser Bool := do
  let row? ← Parser.ahead? (do let _ ← innerTrivia; return (← Parser.position).row)
  return row? = some (← Parser.ended).row

/-- A node around what a rule reads. It begins at the first token and ends with the last. -/
def node (kind : String) (body : Rule) : Rule := do
  let before ← trivia
  let start ← Parser.position
  let children ← body
  return before ++ [.branch kind ⟨start, ← Parser.ended⟩ children]

/-- A node that begins with a tree already read, which fills a field of it. -/
def extend (kind : String) (role : Option String) (left : Tree) (more : Rule) : Parser Tree := do
  let children ← more
  return .branch kind ⟨left.node.span.start, ← Parser.ended⟩ (left.withField role :: children)

/-- Length of a number: a base announced by a letter, or digits with a fraction and an exponent. -/
def numberLength (bytes : Bytes) : Nat :=
  let isDigitOrLine := fun b : UInt8 => isDigit b || b = 0x5F
  let isWordByte := fun b : UInt8 =>
    isDigitOrLine b || (0x41 ≤ b && b ≤ 0x5A) || (0x61 ≤ b && b ≤ 0x7A)
  let based := match bytes with
    | 0x30 :: b :: _ => ([0x78, 0x58, 0x62, 0x42, 0x6F, 0x4F] : List UInt8).contains b
    | _ => false
  if based then (bytes.takeWhile isWordByte).length
  else
    let whole := (bytes.takeWhile isDigitOrLine).length
    let afterWhole := bytes.drop whole
    let fraction :=
      if afterWhole.head? = some 0x2E then
        ((afterWhole.drop 1).takeWhile isDigitOrLine).length + 1
      else 0
    let afterFraction := afterWhole.drop fraction
    let exponent := match afterFraction with
      | e :: rest =>
        if e = 0x65 || e = 0x45 then
          let sign := if rest.head? = some 0x2B || rest.head? = some 0x2D then 1 else 0
          let digits := ((rest.drop sign).takeWhile isDigitOrLine).length
          if digits = 0 then 0 else digits + sign + 1
        else 0
      | [] => 0
    let big := if (afterFraction.drop exponent).head? = some 0x6E then 1 else 0
    if whole = 0 ∧ fraction ≤ 1 then 0 else whole + fraction + exponent + big

def number : Rule := token "number" true numberLength trivia

/-- The length of the body of a regular expression up to its closing slash. -/
def patternLength? (inClass : Bool) : Bytes → Option Nat
  | [] => none
  | b :: rest =>
    if b = 0x0A then none
    else if b = 0x5C then
      match rest with
      | [] => none
      | _ :: after => (patternLength? inClass after).map (· + 2)
    else if b = 0x2F ∧ !inClass then some 0
    else
      let inClass := if b = 0x5B then true else if b = 0x5D then false else inClass
      (patternLength? inClass rest).map (· + 1)

def regularExpression : Rule :=
  token "regex" true (fun bytes =>
    match bytes with
    | 0x2F :: rest =>
      match patternLength? false rest with
      | none => 0
      | some n =>
        n + 2 + ((rest.drop (n + 1)).takeWhile fun b => 0x61 ≤ b && b ≤ 0x7A).length
    | _ => 0) trivia

/-- The length of an escape sequence at the beginning, its backslash included. -/
def escapeLength : Bytes → Nat
  | 0x5C :: rest =>
    match rest with
    | [] => 1
    | b :: after =>
      if b = 0x78 then if (after.take 2).length = 2 ∧ (after.take 2).all isHexDigit then 4 else 2
      else if b = 0x75 then max 2 (nameEscapeLength (0x5C :: rest))
      else if 0x30 ≤ b ∧ b ≤ 0x37 then
        ((rest.take 3).takeWhile fun d => 0x30 ≤ d && d ≤ 0x37).length + 1
      else if b = 0x0D then
        if after.head? = some 0x0A then 3
        else if startsWithSeparator after then 5
        else 2
      else
        match firstChar? rest with
        | some (_, n) => n + 1
        | none => 2
  | _ => 0

/-- The length of the plain part of a string at the beginning. -/
def fragmentLength (quote : UInt8) (bytes : Bytes) : Nat :=
  (bytes.takeWhile fun b => b ≠ quote && b ≠ 0x5C && b ≠ 0x0A && b ≠ 0x0D).length

/-- Bytes read without anything before them. -/
def immediate (kind : String) (named : Bool) (length : Bytes → Nat)
    (short : named = true → kind = "html_character_reference" →
      ∀ bytes, length bytes ≤ Node.longestReference := by simp) : Rule :=
  token kind named length Rule.none short

def quoteMark (kind : String) (quote : UInt8) : Rule :=
  immediate kind false fun bytes => if bytes.head? = some quote then 1 else 0

/-- The rest of a string in which a backslash begins an escape. -/
def stringRest (kind : String) (quote : UInt8) : Rule :=
  Rule.many (immediate "string_fragment" true (fragmentLength quote) <|>
    immediate "escape_sequence" true escapeLength) ++ quoteMark kind quote

def string : Rule :=
  node "string" (
    (quoteMark "\"" 0x22 ++ stringRest "\"" 0x22) <|> (quoteMark "'" 0x27 ++ stringRest "'" 0x27))

def isLetter (b : UInt8) : Bool := (0x41 ≤ b && b ≤ 0x5A) || (0x61 ≤ b && b ≤ 0x7A)

/-- The length of an introduction, a body of at least one byte of a class, and a semicolon. -/
def closedLength (introduction most : Nat) (p : UInt8 → Bool) (bytes : Bytes) : Nat :=
  let body := (bytes.drop introduction).takeWhile p
  if 1 ≤ body.length ∧ body.length ≤ most ∧
      (bytes.drop (introduction + body.length)).head? = some 0x3B then introduction + body.length + 1
  else 0

def referenceLength (bytes : Bytes) : Nat :=
  match bytes with
  | 0x26 :: 0x23 :: b :: _ =>
    if b = 0x78 || b = 0x58 then closedLength 3 6 isHexDigit bytes else closedLength 2 5 isDigit bytes
  | 0x26 :: _ => closedLength 1 30 isLetter bytes
  | _ => 0

theorem closedLength_le (introduction most : Nat) (p : UInt8 → Bool) (bytes : Bytes) :
    closedLength introduction most p bytes ≤ introduction + most + 1 := by
  unfold closedLength
  dsimp only
  split <;> omega

theorem referenceLength_le (bytes : Bytes) : referenceLength bytes ≤ Node.longestReference := by
  unfold referenceLength
  split
  · split
    · exact Nat.le_trans (closedLength_le ..) (by decide)
    · exact Nat.le_trans (closedLength_le ..) (by decide)
  · exact closedLength_le ..
  · exact Nat.zero_le _

/-- The length of the plain part of an attribute string at the beginning. An ampersand belongs to it
together with the byte that follows, unless that could begin a reference. -/
def attributeFragmentLength (quote : UInt8) : Bytes → Nat
  | [] => 0
  | [b] => if b = quote || b = 0x26 then 0 else 1
  | b :: d :: rest =>
    if b = quote then 0
    else if b = 0x26 then
      if d = 0x23 || isLetter d then 0 else attributeFragmentLength quote rest + 2
    else attributeFragmentLength quote (d :: rest) + 1

/-- A string as the value of an attribute: no escapes, but character references. An ampersand that
begins no reference stands for itself. -/
def attributeString : Rule :=
  let body := fun (kind : String) (quote : UInt8) =>
    quoteMark kind quote ++
      Rule.many (immediate "html_character_reference" true referenceLength (fun _ _ => referenceLength_le) <|>
        immediate "string_fragment" true (attributeFragmentLength quote) <|>
        immediate "string_fragment" true (fun bytes => if bytes.head? = some 0x26 then 1 else 0)) ++
      quoteMark kind quote
  node "string" (body "\"" 0x22 <|> body "'" 0x27)

def templateFragmentLength : Bytes → Nat
  | [] => 0
  | b :: rest =>
    if b = 0x60 || b = 0x5C || (b = 0x24 && rest.head? = some 0x7B) then 0
    else templateFragmentLength rest + 1

def template (kind : String) (inside : Rule) : Rule :=
  let substitution := node "template_substitution" (
    immediate "$\x7b" false (fun bytes =>
      if (Utf8.ascii "$\x7b").isPrefixOf bytes then 2 else 0) ++ inside ++ mark "\x7d")
  node kind (
    quoteMark "\x60" 0x60 ++
    Rule.many (immediate "string_fragment" true templateFragmentLength <|>
      immediate "escape_sequence" true escapeLength <|> substitution) ++
    quoteMark "\x60" 0x60)

end ImportDepth.Source
