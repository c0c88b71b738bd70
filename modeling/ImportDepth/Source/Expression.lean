import ImportDepth.Source.Function
import ImportDepth.Source.Markup

/-! Expressions. Operands are read first and then continued to the right: by members, calls and
subscripts, by operators from the tightest to the loosest, by a condition or an assignment. -/
namespace ImportDepth.Source

def operandAhead : Parser Bool := do
  let word ← nextInnerWord
  if word ≠ "" then
    return !(["as", "satisfies", "in", "instanceof", "of"].contains word)
  else
    let m ← nextMark
    if m = "" then
      let rest? ← Parser.ahead? (do let _ ← innerTrivia; Parser.rest)
      return !(rest?.getD []).isEmpty
    else
      return ["(", "[", "\x7b", "\x60", "<", "+", "-", "!", "~", "/", "++", "--", "#", "@"].contains m

/-- Types applied to an operand: they are followed by a call or by no operand. -/
def appliedTypes (g : Grammar) : Rule := do
  let types ← g.typed (typeArguments g)
  let m ← nextMark
  if m = "(" ∨ m = "\x60" then return types
  else if ← operandAhead then failure
  else return types

def templateLiteral (g : Grammar) : Rule := template "template_string" g.expression

def memberName (g : Grammar) : Rule := privateName <|> g.named (anyName "property_identifier")

/-- Members, subscripts, calls and suffixes after an operand, within a number of them. Where calls are
not allowed, arguments in parentheses are left to someone else. -/
def suffixes (g : Grammar) (calls : Bool) : Nat → Tree → Parser Tree
  | 0, left => pure left
  | n + 1, left => do
    let continueWith := fun (p : Parser Tree) => (do suffixes g calls n (← p)) <|> pure left
    match ← nextMark with
    | "." =>
      continueWith (extend "member_expression" "object" left
        (innerMark "." ++ Rule.field "property" (memberName g)))
    | "?." => continueWith (optionalChain left)
    | "[" =>
      continueWith (extend "subscript_expression" "object" left
        (innerMark "[" ++ Rule.field "index" g.expression ++ mark "]"))
    | "(" =>
      if calls then
        continueWith (extend "call_expression" "function" left
          (innerTrivia ++ Rule.field "arguments" (arguments g)))
      else pure left
    | "\x60" =>
      continueWith (extend "call_expression" "function" left
        (innerTrivia ++ Rule.field "arguments" (templateLiteral g)))
    | "++" | "--" =>
      continueWith (extend "update_expression" "argument" left
        (sameLine (innerMark "++" <|> innerMark "--")))
    | "!" =>
      continueWith (extend "non_null_expression" none left (g.typed (sameLine (innerMark "!"))))
    | "<" => if calls then continueWith (applied left) else pure left
    | _ => pure left
where
  optionalMark : Rule := node "optional_chain" (innerMark "?.")
  optionalChain (left : Tree) : Parser Tree :=
    extend "call_expression" "function" left
      (optionalMark ++ g.typedOptional (typeArguments g) ++ Rule.field "arguments" (arguments g)) <|>
    extend "subscript_expression" "object" left
      (optionalMark ++ mark "[" ++ Rule.field "index" g.expression ++ mark "]") <|>
    extend "member_expression" "object" left
      (optionalMark ++ Rule.field "property" (memberName g))
  applied (left : Tree) : Parser Tree :=
    extend "call_expression" "function" left
      (appliedTypes g ++ Rule.field "arguments" (arguments g <|> templateLiteral g)) <|>
    extend "instantiation_expression" none left (appliedTypes g)

def parenthesized (g : Grammar) : Rule :=
  node "parenthesized_expression" (mark "(" ++ g.expression ++ mark ")")

def array (g : Grammar) : Rule :=
  node "array" (mark "[" ++ sparselyListed (spread g <|> g.assignment) ++ mark "]")

def wordLeaf (word : String) (other : isCharacterReference word = false := by exact Eq.refl false) : Rule :=
  token word true (keywordLength word) trivia fun _ same => absurd same (of_decide_eq_false other)

/-- A member of a word that is no value of its own. -/
def metaProperty (word : String) : Rule :=
  node "meta_property" (keyword word ++ mark "." ++ anyName "property_identifier")

/-- A generic arrow function where an opening angle could also begin an element. -/
def genericArrowAhead : Parser Bool :=
  Parser.isAhead (mark "<" ++ Rule.optional (keyword "const") ++ identifier "type_identifier" ++
    (mark "," <|> keyword "extends"))

def angleOperand (g : Grammar) (mode : Mode) : Rule :=
  match g.dialect with
  | .javascript => element g
  | .typescript =>
    arrowFunction g mode <|>
      node "type_assertion" (typeArguments g ++ g.read (.unary mode))
  | .tsx => do if ← genericArrowAhead then arrowFunction g mode else element g

/-- The object made by calling a constructor. What is constructed is read without calls. -/
def newExpression (g : Grammar) (operand : Rule) : Rule :=
  metaProperty "new" <|>
    node "new_expression" (
      keyword "new" ++
      Rule.field "constructor" (continued operand fun left => do
        suffixes g false (← Parser.rest).length left) ++
      Rule.optional (appliedTypes g) ++
      Rule.optional (Rule.field "arguments" (arguments g)))

/-- An operand without anything after it. `again` reads a further one, inside this. -/
def primaryWith (g : Grammar) (mode : Mode) (again : Rule) : Rule := do
  match ← peekWord with
  | "function" => functionExpression g
  | "class" => classExpression g base
  | "abstract" => classExpression g base <|> named
  | "async" => functionExpression g <|> arrowFunction g mode <|> named
  | "new" => newExpression g again
  | "import" => metaProperty "import" <|> wordLeaf "import"
  | "this" => wordLeaf "this"
  | "super" => wordLeaf "super"
  | "null" => wordLeaf "null"
  | "true" => wordLeaf "true"
  | "false" => wordLeaf "false"
  | "" =>
    match ← Parser.ahead? (do let _ ← trivia; Parser.rest) with
    | some (0x28 :: _) => arrowFunction g mode <|> parenthesized g
    | some (0x5B :: _) => array g
    | some (0x7B :: _) => object g
    | some (0x60 :: _) => templateLiteral g
    | some (0x22 :: _) | some (0x27 :: _) => string
    | some (0x2F :: _) => regularExpression
    | some (0x3C :: _) => angleOperand g mode
    | some (0x23 :: _) => privateName
    | some (0x40 :: _) => classExpression g base
    | _ => number
  | _ => arrowOfName <|> named
where
  named : Rule := g.named (identifier "identifier")
  arrowOfName : Rule := do
    Parser.guard (← Parser.isAhead (named ++ mark "=>"))
    arrowFunction g mode
  /-- What a class extends. -/
  base : Rule := continued again fun left => do suffixes g true (← Parser.rest).length left

/-- An operand without anything after it. The number bounds how deeply such operands hold each
other directly. -/
def primary (g : Grammar) (mode : Mode) : Nat → Rule
  | 0 => failure
  | n + 1 => primaryWith g mode (primary g mode n)

/-- An operand with everything that is attached to it. -/
def operand (g : Grammar) (mode : Mode) : Rule := do
  continued (primary g mode ((← Parser.rest).length + 1)) fun left => do
    suffixes g true (← Parser.rest).length left

def unaryExpression (g : Grammar) (mode : Mode) : Rule := do
  match ← peekWord with
  | "delete" | "void" | "typeof" | "await" =>
    node "unary_expression" (Rule.oneOf (["delete", "void", "typeof", "await"].map keyword) ++
      g.read (.unary mode))
  | "" =>
    let signs := ["+", "-", "~", "!", "++", "--"]
    if ← isAtOneOf signs then
      node "unary_expression" (Rule.oneOf (signs.map mark) ++ g.read (.unary mode))
    else operand g mode
  | _ => operand g mode

/-- How tightly each operator between two operands binds. -/
def levels : List (String × Nat) :=
  [("??", 1), ("||", 1), ("&&", 2), ("|", 3), ("^", 4), ("&", 5), ("==", 6), ("!=", 6), ("===", 6),
    ("!==", 6), ("<", 7), (">", 7), ("<=", 7), (">=", 7), ("<<", 8), (">>", 8), (">>>", 8),
    ("+", 9), ("-", 9), ("*", 10), ("/", 10), ("%", 10), ("**", 11)]

/-- Operators that are words bind like comparisons. -/
def wordLevel : Nat := 7

/-- Operators and their right operands after a left operand, within a number of them. -/
def operators (g : Grammar) (mode : Mode) (least : Nat) : Nat → Tree → Parser Tree
  | 0, left => pure left
  | n + 1, left => do
    let continueWith := fun (p : Parser Tree) =>
      (do operators g mode least n (← p)) <|> pure left
    let binary := fun (level : Nat) (operator : Rule) =>
      if least ≤ level then
        continueWith (extend "binary_expression" "left" left
          (operator ++ Rule.field "right" (g.read (.binary (level + 1) mode))))
      else pure left
    match ← nextInnerWord with
    | "in" => if mode.noIn then pure left else binary wordLevel (innerKeyword "in")
    | "instanceof" => binary wordLevel (innerKeyword "instanceof")
    | "as" => asType n left "as"
    | "satisfies" => asType n left "satisfies"
    | "" =>
      let m ← nextMark
      match levels.lookup m with
      | some level => binary level (innerMark m)
      | none => pure left
    | _ => pure left
where
  asType (n : Nat) (left : Tree) (word : String) : Parser Tree :=
    if least ≤ wordLevel then
      (do
        operators g mode least n (← extend "as_expression" none left
          (g.typed (innerKeyword word ++ (keyword "const" <|> g.type))))) <|> pure left
    else pure left

/-- Operands with operators of at least a level between them. -/
def binaryExpression (g : Grammar) (mode : Mode) (least : Nat) : Rule :=
  continued (unaryExpression g mode) fun left => do
    operators g mode least (← Parser.rest).length left

def assignmentMarks : List String :=
  ["=", "+=", "-=", "*=", "/=", "%=", "**=", "<<=", ">>=", ">>>=", "&=", "^=", "|=", "&&=", "||=",
    "??="]

/-- The two outcomes of a condition. A colon after the first one is first taken to belong to it, as
the result type of a function, and only if that fails to the condition. -/
def outcomes (g : Grammar) (mode : Mode) : Rule :=
  innerMark "?" ++
    ((Rule.field "consequence" g.assignment ++ mark ":") <|>
      (Rule.field "consequence" (g.read (.assignment { noResultType := true })) ++ mark ":")) ++
    Rule.field "alternative" (g.read (.assignment mode))

/-- One expression without a comma. -/
def assignmentExpression (g : Grammar) (mode : Mode) : Rule := do
  if (← peekWord) = "yield" then
    node "yield_expression" (
      keyword "yield" ++ Rule.optional (sameLine (mark "*")) ++
        Rule.optional (sameLine (g.read (.assignment mode))))
  else
    continued (binaryExpression g mode 0) fun left => do
      let m ← nextMark
      if m = "?" then
        extend "ternary_expression" "condition" left (outcomes g mode) <|> pure left
      else if assignmentMarks.contains m then
        extend "assignment_expression" "left" left
          (innerMark m ++ Rule.field "right" (g.read (.assignment mode))) <|> pure left
      else pure left

def commaExpression (g : Grammar) (mode : Mode) : Rule :=
  continued (g.read (.assignment mode)) fun left => do
    if (← nextMark) = "," then
      extend "sequence_expression" none left
        (Rule.some (mark "," ++ g.read (.assignment mode))) <|> pure left
    else pure left

end ImportDepth.Source
