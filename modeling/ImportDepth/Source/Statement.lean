import ImportDepth.Source.ModuleSyntax

/-! Statements. -/
namespace ImportDepth.Source

def condition (g : Grammar) : Rule := mark "(" ++ g.expression ++ mark ")"

def expressionStatement (g : Grammar) : Rule :=
  node "expression_statement" (g.expression ++ looseSemicolon)

/-- The head of a loop over the keys or the members of a value. -/
def overHead (g : Grammar) : Rule :=
  ((variableWords ++ g.pattern ++ g.typedOptional (typeClause g) ++
      Rule.optional (mark "=" ++ g.read (.assignment { noIn := true }))) <|>
    g.read (.unary { noIn := true })) ++
    (innerKeyword "in" <|> innerKeyword "of") ++ g.expression

def countingHead (g : Grammar) : Rule :=
  Rule.optional (declarators g { noIn := true } <|> g.read (.expression { noIn := true })) ++
    mark ";" ++ Rule.optional g.expression ++ mark ";" ++ Rule.optional g.expression

def forStatement (g : Grammar) : Rule :=
  node "for_statement" (
    keyword "for" ++ Rule.optional (keyword "await") ++ mark "(" ++
    (closed (overHead g) <|> closed (countingHead g)) ++ g.statement)
where
  closed (head : Rule) : Rule := head ++ mark ")"

def switchCase (g : Grammar) : Rule :=
  node "switch_case" (
    ((keyword "case" ++ g.expression) <|> keyword "default") ++ mark ":" ++ Rule.many g.statement)

def catchClause (g : Grammar) : Rule :=
  node "catch_clause" (
    keyword "catch" ++
    Rule.optional (mark "(" ++ g.pattern ++ g.typedOptional (typeClause g) ++ mark ")") ++
    block g)

def controlStatement (g : Grammar) (word : String) : Rule :=
  match word with
  | "if" =>
    node "if_statement" (keyword "if" ++ condition g ++ g.statement ++
      Rule.optional (keyword "else" ++ g.statement))
  | "for" => forStatement g
  | "while" => node "while_statement" (keyword "while" ++ condition g ++ g.statement)
  | "do" =>
    node "do_statement" (
      keyword "do" ++ g.statement ++ keyword "while" ++ condition g ++ looseSemicolon)
  | "switch" =>
    node "switch_statement" (
      keyword "switch" ++ condition g ++ mark "\x7b" ++ Rule.many (switchCase g) ++ mark "\x7d")
  | "try" =>
    node "try_statement" (
      keyword "try" ++ block g ++ Rule.optional (catchClause g) ++
        Rule.optional (keyword "finally" ++ block g))
  | "with" => node "with_statement" (keyword "with" ++ condition g ++ g.statement)
  | "return" | "throw" =>
    node "return_statement" (
      keyword word ++ Rule.optional (sameLine g.expression) ++ looseSemicolon)
  | "break" | "continue" =>
    node "jump_statement" (
      keyword word ++ Rule.optional (sameLine (identifier "statement_identifier")) ++
        looseSemicolon)
  | "debugger" => node "debugger_statement" (keyword "debugger" ++ looseSemicolon)
  | _ => failure

def controlWords : List String :=
  ["if", "for", "while", "do", "switch", "try", "with", "return", "throw", "break", "continue",
    "debugger"]

def declarationWords : List String :=
  ["var", "let", "const", "using", "await", "function", "async", "class", "abstract", "enum",
    "interface", "type", "namespace", "module", "declare"]

def labeledStatement (g : Grammar) : Rule :=
  node "labeled_statement" (identifier "statement_identifier" ++ mark ":" ++ g.statement)

def plainStatement (g : Grammar) : Rule := labeledStatement g <|> expressionStatement g

def statement (g : Grammar) : Rule := do
  let word ← peekWord
  if word = "" then
    Rule.oneOf [block g, node "empty_statement" (mark ";"), exportStatement g, decorated,
      expressionStatement g]
  else if word = "import" then importStatement g <|> g.typed importAlias <|> expressionStatement g
  else if word = "export" then exportStatement g
  else if controlWords.contains word then controlStatement g word
  else if declarationWords.contains word then declaration g <|> plainStatement g
  else plainStatement g
where
  /-- A class with decorators before it. -/
  decorated : Rule := do
    Parser.guard (← isAt "@")
    classDeclaration g (baseClass g)

end ImportDepth.Source
