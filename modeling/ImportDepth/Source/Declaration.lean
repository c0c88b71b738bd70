import ImportDepth.Source.Expression

/-! Declarations: what introduces names and may be exported. -/
namespace ImportDepth.Source

/-- What a class extends: an operand with its members and calls. -/
def baseClass (g : Grammar) : Rule := operand g {}

def declarator (g : Grammar) (mode : Mode) : Rule :=
  node "variable_declarator" (
    Rule.field "name" g.pattern ++ g.typedOptional (mark "!") ++
      g.typedOptional (typeClause g) ++
      Rule.optional (mark "=" ++ Rule.field "value" (g.read (.assignment mode))))

/-- The words that introduce variables. The first three are reserved or followed by a pattern; the
others introduce a variable only if a name follows on the same line. -/
def variableWords : Rule :=
  keyword "var" <|> keyword "const" <|> ahead (keyword "let") patternAhead <|>
    ahead (keyword "await" ++ sameLine (keyword "using")) nameAhead <|>
    ahead (keyword "using") nameAhead
where
  ahead (words : Rule) (condition : Parser Bool) : Rule := do
    let nodes ← words
    Parser.guard (← condition)
    return nodes
  patternAhead : Parser Bool :=
    Parser.isAhead (Rule.oneOf [identifier "identifier", mark "[", mark "\x7b"])
  nameAhead : Parser Bool := Parser.isAhead (sameLine (do
    if (← peekWord) = "of" ∨ (← peekWord) = "in" then failure else identifier "identifier"))

/-- Variables without the end of the statement. -/
def declarators (g : Grammar) (mode : Mode) : Rule :=
  variableWords ++ Rule.separated (declarator g mode) (mark ",")

def variableDeclaration (g : Grammar) : Rule :=
  node "variable_declaration" (declarators g {} ++ looseSemicolon)

def enumDeclaration (g : Grammar) : Rule :=
  node "enum_declaration" (
    Rule.optional (keyword "const") ++ keyword "enum" ++ identifier "identifier" ++
    mark "\x7b" ++ listed (propertyName g ++ Rule.optional (initializer g.assignment)) ++
    mark "\x7d")

def interfaceDeclaration (g : Grammar) : Rule :=
  node "interface_declaration" (
    keyword "interface" ++ identifier "type_identifier" ++ Rule.optional (typeParameters g) ++
    Rule.optional (keyword "extends" ++ Rule.separated g.type (mark ",")) ++ objectType g)

def aliasDeclaration (g : Grammar) : Rule :=
  node "type_alias_declaration" (
    keyword "type" ++ identifier "type_identifier" ++ Rule.optional (typeParameters g) ++
    mark "=" ++ g.type ++ looseSemicolon)

def dottedName : Rule :=
  identifier "identifier" ++ Rule.many (mark "." ++ anyName "property_identifier")

def namespaceDeclaration (g : Grammar) : Rule :=
  node "module" (
    (keyword "namespace" <|> keyword "module") ++ sameLine (string <|> dottedName) ++
    (block g <|> looseSemicolon))

/-- A name for something inside a namespace. -/
def importAlias : Rule :=
  node "import_alias" (
    keyword "import" ++ Rule.optional typeWord ++ identifier "identifier" ++ mark "=" ++
      dottedName ++ looseSemicolon)
where
  /-- The word `type` before the name. -/
  typeWord : Rule := do
    let word ← keyword "type"
    if ← isAt "=" then failure else return word

/-- Declarations of functions and classes, with a name. -/
def namedDefinition (g : Grammar) : Rule :=
  functionDeclaration g <|> classDeclaration g (baseClass g)

/-- Any declaration but an ambient one. -/
def plainDeclaration (g : Grammar) : Rule := do
  match ← peekWord with
  | "var" | "let" | "using" | "await" => variableDeclaration g
  | "const" => g.typed (enumDeclaration g) <|> variableDeclaration g
  | "function" | "async" => functionDeclaration g
  | "class" | "abstract" | "" => classDeclaration g (baseClass g)
  | "enum" => g.typed (enumDeclaration g)
  | "interface" => g.typed (interfaceDeclaration g)
  | "type" => g.typed (aliasDeclaration g)
  | "namespace" | "module" => g.typed (namespaceDeclaration g)
  | "import" => g.typed importAlias
  | _ => failure

/-- A declaration of something that exists elsewhere. -/
def ambientDeclaration (g : Grammar) : Rule :=
  node "ambient_declaration" (
    keyword "declare" ++ ((keyword "global" ++ block g) <|> plainDeclaration g))

def declaration (g : Grammar) : Rule := do
  if (← peekWord) = "declare" then g.typed (ambientDeclaration g) else plainDeclaration g

end ImportDepth.Source
