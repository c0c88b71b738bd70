import ImportDepth.Source.Statement

/-! From source bytes to a syntax tree. The goals of the grammar are read down to a depth that no
source of the given length can exceed. A byte that no statement begins with becomes an error node,
so that every source has a tree. -/
namespace ImportDepth.Source

/-- One goal, in terms of a grammar for the goals inside it. -/
def readGoal (g : Grammar) : Goal → Rule
  | .statement => statement g
  | .expression mode => commaExpression g mode
  | .assignment mode => assignmentExpression g mode
  | .binary level mode => binaryExpression g mode level
  | .unary mode => unaryExpression g mode
  | .type => anyType g
  | .unconditionalType => unionType g
  | .pattern => bindingPattern g
  | .element => element g

def readAtDepth (dialect : Dialect) : Nat → Goal → Rule
  | 0, _ => failure
  | depth + 1, goal => readGoal ⟨dialect, readAtDepth dialect depth⟩ goal

/-- Each nested goal but a few reads at least one byte before the next of its kind. -/
def depthFor (length : Nat) : Nat := 8 * length + 16

def interpreterLine : Rule :=
  immediate "hash_bang_line" true fun bytes =>
    if (Utf8.ascii "#!").isPrefixOf bytes then lineLength true bytes else 0

/-- A byte that belongs to no statement. -/
def misplaced : Rule := token "ERROR" true (fun bytes => min 1 bytes.length) trivia

def program (g : Grammar) : Rule :=
  Rule.optional interpreterLine ++ Rule.many (g.statement <|> misplaced) ++ trivia

/-- The syntax tree of a source, with what holds of all trees of the grammar. -/
def parseTree (dialect : Dialect) (bytes : Bytes) : Tree :=
  match program ⟨dialect, readAtDepth dialect (depthFor bytes.length)⟩ { rest := bytes } with
  | some (children, c) => .branch "program" ⟨{}, c.position⟩ children
  | none => .branch "program" {} []

def parse (dialect : Dialect) (bytes : Bytes) : Node := (parseTree dialect bytes).node

end ImportDepth.Source
