import ImportDepth.Source.TypeSyntax

/-! Functions, object literals and classes. -/
namespace ImportDepth.Source

/-- The body of a method; a method may also be declared without one. -/
def methodBody (g : Grammar) : Rule := block g <|> looseSemicolon

def functionWords : Rule :=
  Rule.optional (keyword "async") ++ keyword "function" ++ Rule.optional (mark "*")

def functionExpression (g : Grammar) : Rule :=
  node "function_expression" (
    functionWords ++ Rule.optional (Rule.field "name" (identifier "identifier")) ++ signature g ++
      Rule.field "body" (block g))

/-- A function with a name. Where there are types, it may be declared without a body. -/
def functionDeclaration (g : Grammar) : Rule :=
  node "function_declaration" (
    functionWords ++ Rule.field "name" (identifier "identifier") ++ signature g ++
      (Rule.field "body" (block g) <|> g.typed looseSemicolon))

def arrowFunction (g : Grammar) (mode : Mode) : Rule :=
  node "arrow_function" (
    (withAsync <|> parametersOf) ++ sameLine (mark "=>") ++ Rule.field "body" body)
where
  parametersOf : Rule :=
    Rule.field "parameter" (g.named (identifier "identifier")) <|>
      (g.typedOptional (typeParameters g) ++ Rule.field "parameters" (parameters g) ++
        (if mode.noResultType then Rule.none else g.typedOptional (resultClause g)))
  withAsync : Rule := keyword "async" ++ sameLine parametersOf
  body : Rule := do if ← isAt "\x7b" then block g else g.read (.assignment mode)

def method (g : Grammar) : Rule :=
  node "method_definition" (
    Rule.many memberModifier ++ Rule.optional (mark "*") ++
      Rule.field "name" (propertyName g) ++ signature g ++ Rule.field "body" (block g))

/-- One entry of an object literal. A shorthand may have a default, because the literal may turn out
to be a pattern. -/
def objectEntry (g : Grammar) : Rule :=
  spread g <|>
    method g <|>
    node "pair" (Rule.field "key" (propertyName g) ++ mark ":" ++
      Rule.field "value" g.assignment) <|>
    (g.named (identifier "shorthand_property_identifier") ++ Rule.optional (initializer g.assignment))

def object (g : Grammar) : Rule :=
  node "object" (mark "\x7b" ++ listed (objectEntry g) ++ mark "\x7d")

def staticBlock (g : Grammar) : Rule := node "class_static_block" (keyword "static" ++ block g)

def member (g : Grammar) : Rule :=
  node "class_member" (
    Rule.many (decorator g <|> memberModifier) ++ Rule.optional (mark "*") ++
    Rule.field "name" (propertyName g) ++
    g.typedOptional (mark "?" <|> mark "!") ++
    ((signature g ++ methodBody g) <|>
      (g.typedOptional (typeClause g) ++ Rule.optional (initializer g.assignment) ++
        looseSemicolon)))

def classBody (g : Grammar) : Rule :=
  node "class_body" (
    mark "\x7b" ++
    Rule.many (Rule.oneOf [mark ";", staticBlock g, g.typed (indexSignature g ++ looseSemicolon),
      member g]) ++
    mark "\x7d")

/-- The name of a class. The words that follow a name are not names here. -/
def className : Rule := do
  let word ← peekWord
  if word = "implements" then failure else Rule.field "name" (identifier "type_identifier")

/-- A class with everything after its name. `base` reads what it extends. -/
def classRest (g : Grammar) (base : Rule) : Rule :=
  g.typedOptional (typeParameters g) ++
    Rule.optional (keyword "extends" ++
      Rule.separated (base ++ g.typedOptional (typeArguments g)) (g.typed (mark ","))) ++
    g.typedOptional (keyword "implements" ++ Rule.separated g.type (mark ",")) ++
    Rule.field "body" (classBody g)

def classWords (g : Grammar) : Rule :=
  Rule.many (decorator g) ++ g.typedOptional (keyword "abstract") ++ keyword "class"

def classExpression (g : Grammar) (base : Rule) : Rule :=
  node "class" (classWords g ++ Rule.optional className ++ classRest g base)

def classDeclaration (g : Grammar) (base : Rule) : Rule :=
  node "class_declaration" (classWords g ++ className ++ classRest g base)

end ImportDepth.Source
