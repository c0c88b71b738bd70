import ImportDepth.Source.Grammar

/-! Binding patterns, parameters and the names of properties. -/
namespace ImportDepth.Source

def privateName : Rule :=
  token "private_property_identifier" true (fun bytes =>
    match bytes with
    | 0x23 :: rest => if nameLength rest = 0 then 0 else nameLength rest + 1
    | _ => 0) trivia

def computedName (g : Grammar) : Rule :=
  node "computed_property_name" (mark "[" ++ g.expression ++ mark "]")

def propertyName (g : Grammar) : Rule :=
  Rule.oneOf [g.named (anyName "property_identifier"), string, number, computedName g, privateName]

def initializer (value : Rule) : Rule := mark "=" ++ Rule.field "right" value

def defaulted (g : Grammar) (target : Rule) : Rule :=
  target ++ Rule.optional (initializer g.assignment)

def restPattern (g : Grammar) : Rule := node "rest_pattern" (mark "..." ++ g.pattern)

def objectPatternEntry (g : Grammar) : Rule :=
  restPattern g <|>
    node "pair_pattern" (propertyName g ++ mark ":" ++ defaulted g g.pattern) <|>
    defaulted g (g.named (identifier "shorthand_property_identifier_pattern"))

/-- A name, or names taken out of an object or an array. -/
def bindingPattern (g : Grammar) : Rule := do
  if ← isAt "\x7b" then
    node "object_pattern" (mark "\x7b" ++ listed (objectPatternEntry g) ++ mark "\x7d")
  else if ← isAt "[" then
    node "array_pattern" (
      mark "[" ++ sparselyListed (restPattern g <|> defaulted g g.pattern) ++ mark "]")
  else identifier "identifier"

def typeClause (g : Grammar) : Rule := node "type_annotation" (mark ":" ++ g.type)

/-- A decorator: a name, its members, and calls of them. -/
def decorator (g : Grammar) : Rule :=
  node "decorator" (mark "@" ++ operand)
where
  parenthesized : Rule :=
    node "parenthesized_expression" (mark "(" ++ g.expression ++ mark ")")
  member (left : Tree) : Parser Tree :=
    extend "member_expression" "object" left
      (mark "." ++ Rule.field "property" (anyName "property_identifier"))
  call (left : Tree) : Parser Tree :=
    extend "call_expression" "function" left
      (g.typedOptional (typeArguments g) ++ Rule.field "arguments" (arguments g))
  chain : Nat → Tree → Parser Tree
    | 0, left => pure left
    | n + 1, left => (do chain n (← member left)) <|> (do chain n (← call left)) <|> pure left
  operand : Rule :=
    parenthesized <|> continued (identifier "identifier") fun left => do
      chain (← Parser.rest).length left

def parameterModifier : Rule := do
  let r := Rule.oneOf (["public", "private", "protected", "readonly", "override"].map keyword)
  let modifier ← r
  if ← isAtOneOf [",", ")", ":", "=", "?"] then failure else return modifier

def parameter (g : Grammar) : Rule :=
  node "required_parameter" (
    Rule.many (decorator g) ++
    g.typedOptional (Rule.many parameterModifier) ++
    (restPattern g <|> g.typed (keyword "this") <|> g.named g.pattern) ++
    g.typedOptional (mark "?") ++
    g.typedOptional (typeClause g) ++
    Rule.optional (initializer g.assignment))

def parameters (g : Grammar) : Rule :=
  node "formal_parameters" (mark "(" ++ listed (parameter g) ++ mark ")")

end ImportDepth.Source
