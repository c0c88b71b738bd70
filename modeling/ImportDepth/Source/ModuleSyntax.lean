import ImportDepth.Source.Declaration

/-! Imports and exports. Their extent is reported, so the end of each is found exactly. -/
namespace ImportDepth.Source

/-- A name across a module boundary, which may be a string. -/
def boundaryName : Rule := string <|> anyName "identifier"

/-- One name of a list of imports or exports, perhaps under another name. -/
def boundarySpecifier (g : Grammar) (kind : String) : Rule :=
  node kind (complete (g.typed ((keyword "type" <|> keyword "typeof") ++ renamed)) <|> renamed)
where
  renamed : Rule := boundaryName ++ Rule.optional (keyword "as" ++ boundaryName)
  /-- A rule that leaves nothing before the next comma or brace. -/
  complete (r : Rule) : Rule := do
    let nodes ← r
    Parser.guard (← isAtOneOf [",", "\x7d"])
    return nodes

def boundaryClause (g : Grammar) (kind item : String) : Rule :=
  node kind (mark "\x7b" ++ listed (boundarySpecifier g item) ++ mark "\x7d")

def namespaceImport : Rule :=
  node "namespace_import" (mark "*" ++ keyword "as" ++ identifier "identifier")

def importClause (g : Grammar) : Rule :=
  let others := namespaceImport <|> boundaryClause g "named_imports" "import_specifier"
  node "import_clause" (
    others <|> (identifier "identifier" ++ Rule.optional (mark "," ++ others)))

/-- What a module is loaded with, on the line of its specifier. -/
def attributes (g : Grammar) : Rule := do
  if ← endsHere g.dialect false then return []
  else
    Rule.optional (node "import_attribute" (
      (innerKeyword "with" <|> innerKeyword "assert") ++ object g))

def source : Rule := Rule.field "source" string

def fromClause (g : Grammar) : Rule := innerKeyword "from" ++ source ++ attributes g

/-- An import in terms of a call, without a module specifier of its own. -/
def requireClause : Rule :=
  node "import_require_clause" (
    identifier "identifier" ++ mark "=" ++ keyword "require" ++ mark "(" ++ source ++ mark ")")

def importStatement (g : Grammar) : Rule :=
  let clause := (importClause g ++ fromClause g) <|> g.typed requireClause
  node "import_statement" (
    keyword "import" ++
    Rule.oneOf [
      source ++ attributes g,
      g.typed ((keyword "type" <|> keyword "typeof") ++ clause),
      clause] ++
    semicolon g.dialect false)

def namespaceExport : Rule :=
  node "namespace_export" (mark "*" ++ keyword "as" ++ boundaryName)

/-- The default export: a named definition or any value. -/
def defaultExport (g : Grammar) : Rule :=
  keyword "default" ++ (Rule.field "declaration" definition <|>
    (Rule.field "value" g.expression ++ looseSemicolon))
where
  definition : Rule := namedDefinition g <|> g.typed (interfaceDeclaration g)

def exportedNames (g : Grammar) : Rule :=
  (namespaceExport ++ fromClause g) <|> (mark "*" ++ fromClause g) <|>
    (boundaryClause g "export_clause" "export_specifier" ++ do
      if ← endsHere g.dialect false then return [] else Rule.optional (fromClause g))

def exportStatement (g : Grammar) : Rule :=
  node "export_statement" (
    Rule.many (decorator g) ++ keyword "export" ++
    Rule.oneOf [
      exportedNames g ++ semicolon g.dialect false,
      g.typed (keyword "type" ++ exportedNames g ++ semicolon g.dialect false),
      g.typed (mark "=" ++ g.expression ++ semicolon g.dialect true),
      g.typed (keyword "as" ++ keyword "namespace" ++ identifier "identifier" ++
        semicolon g.dialect false),
      defaultExport g,
      Rule.field "declaration" (declaration g)])

end ImportDepth.Source
