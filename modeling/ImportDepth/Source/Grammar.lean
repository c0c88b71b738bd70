import ImportDepth.Source.Semicolon

/-! The goals of the grammar that contain each other. Every rule is written against a grammar that
can read any goal; the knot is tied once, at the end, by a bound on the depth of nesting. -/
namespace ImportDepth.Source

/-- What an expression may not be in its place. -/
structure Mode where
  /-- The operator `in` belongs to the surrounding loop. -/
  noIn : Bool := false
  /-- A colon after the parameters of a function belongs to the surrounding condition. -/
  noResultType : Bool := false
  deriving DecidableEq

inductive Goal where
  | statement
  /-- Expressions with commas between them. -/
  | expression (mode : Mode)
  /-- One expression without a comma. -/
  | assignment (mode : Mode)
  /-- Operands of operators that bind at least as tightly as a level. -/
  | binary (level : Nat) (mode : Mode)
  | unary (mode : Mode)
  | type
  /-- A type in which a question mark does not begin a conditional type. -/
  | unconditionalType
  | pattern
  | element
  deriving DecidableEq

structure Grammar where
  dialect : Dialect
  read : Goal → Rule

namespace Grammar

def typed (g : Grammar) (r : Rule) : Rule := if g.dialect.hasTypes then r else failure

/-- A rule that only a dialect with types has, if it applies. -/
def typedOptional (g : Grammar) (r : Rule) : Rule := Rule.optional (g.typed r)

def statement (g : Grammar) : Rule := g.read .statement

def expression (g : Grammar) : Rule := g.read (.expression {})

def assignment (g : Grammar) : Rule := g.read (.assignment {})

def type (g : Grammar) : Rule := g.read .type

def pattern (g : Grammar) : Rule := g.read .pattern

end Grammar

/-- The token that the word `string` is where there are types, even if it serves as a name. -/
def nameTokens (g : Grammar) (leaf : Tree) : Tree :=
  let name := leaf.node
  if g.dialect.hasTypes ∧ name.text = some (Utf8.ascii "string") then
    let word : Node := { kind := "string", text := name.text, named := false, span := name.span }
    let inner : Tree := .withChildren word (by simp [Node.IsShort, word]) []
    .withChildren name (leaf.short name name.mem_preorder_self) [inner]
  else leaf

def Grammar.named (g : Grammar) (r : Rule) : Rule := do return (← r).map (nameTokens g)

def continued (first : Rule) (more : Tree → Parser Tree) : Rule := do
  let trees ← first
  match trees.getLast? with
  | none => failure
  | some left => return trees.dropLast ++ [← more left]

/-- The punctuator that follows an operand, with nothing read, or the empty string. -/
def nextMark : Parser String := do
  let rest? ← Parser.ahead? (do let _ ← innerTrivia; Parser.rest)
  let bytes := rest?.getD []
  if bytes.head? = some 0x60 then return "\x60"
  else return String.ofList (((punctuatorAt? bytes).getD []).map fun b => Char.ofNat b.toNat)

/-- The word that follows an operand, with nothing read, or the empty string. -/
def nextInnerWord : Parser String := do
  let rest? ← Parser.ahead? (do let _ ← innerTrivia; Parser.rest)
  return wordAt (rest?.getD [])

/-- A rule that applies only if its first token is on the current line. -/
def sameLine (r : Rule) : Rule := do
  Parser.guard (← onSameLine)
  r

/-- Items with commas between them and perhaps after the last. -/
def listed (item : Rule) : Rule :=
  Rule.optional (item ++ Rule.many (mark "," ++ item) ++ Rule.optional (mark ","))

/-- Items with commas between them, where a comma may also stand without an item. -/
def sparselyListed (item : Rule) : Rule :=
  Rule.many (mark ",") ++ Rule.optional (item ++ Rule.many (Rule.some (mark ",") ++ item)) ++
    Rule.many (mark ",")

def block (g : Grammar) : Rule :=
  node "statement_block" (mark "\x7b" ++ Rule.many g.statement ++ mark "\x7d")

def spread (g : Grammar) : Rule := node "spread_element" (mark "..." ++ g.assignment)

def arguments (g : Grammar) : Rule :=
  node "arguments" (mark "(" ++ listed (spread g <|> g.assignment) ++ mark ")")

def typeArguments (g : Grammar) : Rule :=
  node "type_arguments" (mark "<" ++ listed g.type ++ closingAngle)

end ImportDepth.Source
