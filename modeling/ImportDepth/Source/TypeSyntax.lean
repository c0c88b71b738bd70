import ImportDepth.Source.Pattern

/-! Types. Calls occur among them too: the type of a module is written as a call of `import`, and the
type of a value as a chain of members and calls after `typeof`. -/
namespace ImportDepth.Source

/-- Words that are types by themselves although they are reserved. -/
def typeWords : List String := ["void", "null", "true", "false", "this"]

def typeParameter (g : Grammar) : Rule :=
  node "type_parameter" (
    Rule.many (keyword "const" <|> keyword "in" <|> variance) ++
    identifier "type_identifier" ++
    Rule.optional (keyword "extends" ++ g.type) ++
    Rule.optional (mark "=" ++ g.type))
where
  /-- The word `out` before the name of a parameter. -/
  variance : Rule := do
    let word ← keyword "out"
    Parser.guard (← Parser.isAhead (identifier "type_identifier"))
    return word

def typeParameters (g : Grammar) : Rule :=
  node "type_parameters" (mark "<" ++ listed (typeParameter g) ++ closingAngle)

/-- What a function says about its result: a type, or what its success says about a parameter. -/
def result (g : Grammar) : Rule :=
  let subject := keyword "this" <|> identifier "identifier"
  node "asserts" (keyword "asserts" ++ subject ++ Rule.optional (keyword "is" ++ g.type)) <|>
    node "type_predicate" (subject ++ keyword "is" ++ g.type) <|>
    g.type

def resultClause (g : Grammar) : Rule := node "type_annotation" (mark ":" ++ result g)

def signature (g : Grammar) : Rule :=
  g.typedOptional (typeParameters g) ++ Rule.field "parameters" (parameters g) ++
    g.typedOptional (resultClause g)

def functionType (g : Grammar) : Rule :=
  node "function_type" (
    Rule.optional (typeParameters g) ++ parameters g ++ mark "=>" ++ result g)

def constructorType (g : Grammar) : Rule :=
  node "constructor_type" (
    Rule.optional (keyword "abstract") ++ keyword "new" ++ Rule.optional (typeParameters g) ++
      parameters g ++ mark "=>" ++ g.type)

def importCall (g : Grammar) : Rule :=
  node "call_expression" (
    Rule.field "function" (token "import" true (keywordLength "import") trivia) ++
    Rule.field "arguments" (arguments g))

/-- Members and calls after a node, within a number of them. -/
def typeChain (g : Grammar) (calls : Bool) : Nat → Tree → Parser Tree
  | 0, left => pure left
  | n + 1, left =>
    (do typeChain g calls n (← extend "member_expression" "object" left
      ((mark "." <|> mark "?.") ++
        Rule.field "property" (privateName <|> anyName "property_identifier")))) <|>
    (do
      Parser.guard calls
      typeChain g calls n (← extend "call_expression" "function" left
        (sameLine (Rule.field "arguments" (arguments g))))) <|>
    pure left

def chained (g : Grammar) (calls : Bool) (first : Rule) : Rule :=
  continued first fun left => do typeChain g calls (← Parser.rest).length left

def typeQuery (g : Grammar) : Rule :=
  node "type_query" (
    keyword "typeof" ++
    chained g true (importCall g <|> keyword "this" <|> identifier "identifier") ++
    Rule.optional (sameLine (typeArguments g)))

def memberModifiers : List String :=
  ["public", "private", "protected", "static", "override", "abstract", "readonly", "declare",
    "async", "get", "set", "accessor"]

/-- A word before the name of a member, not itself the name. -/
def memberModifier : Rule := do
  let word ← Rule.oneOf (memberModifiers.map keyword)
  if ← isAtOneOf ["(", "=", ";", "\x7d", "?", "!", ":", ",", "<"] then failure else return word

/-- A sign that adds or removes a property of a mapped member. -/
def mappingSign : Rule := mark "+" <|> mark "-"

/-- A signature for all keys of a type, or a member for each of them. -/
def indexSignature (g : Grammar) : Rule :=
  node "index_signature" (
    Rule.many memberModifier ++
    Rule.optional (Rule.optional mappingSign ++ keyword "readonly") ++
    mark "[" ++ identifier "identifier" ++
    ((mark ":" ++ g.type) <|>
      (keyword "in" ++ g.type ++ Rule.optional (keyword "as" ++ g.type))) ++
    mark "]" ++
    Rule.optional (Rule.optional mappingSign ++ mark "?") ++
    Rule.optional (typeClause g))

def callSignature (g : Grammar) : Rule := node "call_signature" (signature g)

def constructSignature (g : Grammar) : Rule :=
  node "construct_signature" (keyword "new" ++ signature g)

def propertySignature (g : Grammar) : Rule :=
  node "property_signature" (
    Rule.many memberModifier ++ propertyName g ++ Rule.optional (mark "?") ++
      (signature g <|> Rule.optional (typeClause g)))

/-- The members of an object type or an interface. -/
def objectType (g : Grammar) : Rule :=
  node "object_type" (
    mark "\x7b" ++ Rule.many separator ++
    Rule.many (Rule.oneOf [indexSignature g, callSignature g, constructSignature g,
      propertySignature g] ++ Rule.many separator) ++
    mark "\x7d")
where
  separator : Rule := mark ";" <|> mark ","

def tupleElement (g : Grammar) : Rule :=
  Rule.optional (mark "...") ++
    ((anyName "identifier" ++ Rule.optional (mark "?") ++ mark ":" ++ g.type) <|> g.type) ++
    Rule.optional (mark "?")

def templateType (g : Grammar) : Rule := template "template_literal_type" g.type

/-- A type named by words with dots between them. -/
def namedType (g : Grammar) : Rule :=
  node "type_reference" (
    identifier "type_identifier" ++
    Rule.many (mark "." ++ anyName "type_identifier") ++
    Rule.optional (sameLine (typeArguments g)))

/-- A type without operators. -/
def primaryType (g : Grammar) : Rule := do
  match ← peekWord with
  | "typeof" => typeQuery g
  | "import" =>
    node "imported_type" (chained g false (importCall g) ++
      Rule.optional (sameLine (typeArguments g)))
  | "new" => constructorType g
  | "string" => node "predefined_type" (keyword "string")
  | "abstract" => constructorType g <|> namedType g
  | "" =>
    Rule.oneOf [
      functionType g,
      node "parenthesized_type" (mark "(" ++ g.type ++ mark ")"),
      objectType g,
      node "tuple_type" (mark "[" ++ listed (tupleElement g) ++ mark "]"),
      node "literal_type" (string <|> (Rule.optional (mark "-") ++ number)),
      templateType g,
      mark "*",
      mark "?" ++ g.type]
  | word => if typeWords.contains word then keyword word else namedType g

def suffixedType (g : Grammar) : Rule :=
  primaryType g ++
    Rule.many (sameLine (mark "[" ++ Rule.optional g.type ++ mark "]"))

def prefixedType (g : Grammar) : Rule := do
  match ← peekWord with
  | "keyof" | "unique" | "readonly" =>
    (Rule.some (Rule.oneOf [keyword "keyof", keyword "unique", keyword "readonly"]) ++
      suffixedType g) <|> suffixedType g
  | "infer" =>
    node "infer_type" (keyword "infer" ++ identifier "type_identifier" ++
      Rule.optional (do
        let constraint ← keyword "extends" ++ g.read .unconditionalType
        if ← isAt "?" then failure else return constraint)) <|> suffixedType g
  | _ => suffixedType g

def intersectionType (g : Grammar) : Rule :=
  Rule.optional (mark "&") ++ Rule.separated (prefixedType g) (mark "&")

/-- A type in which no condition stands at the outermost level. -/
def unionType (g : Grammar) : Rule :=
  node "type" (Rule.optional (mark "|") ++ Rule.separated (intersectionType g) (mark "|"))

/-- A type, conditional or not. -/
def anyType (g : Grammar) : Rule :=
  unionType g ++ Rule.optional (
    keyword "extends" ++ g.read .unconditionalType ++ mark "?" ++ g.type ++ mark ":" ++ g.type)

end ImportDepth.Source
