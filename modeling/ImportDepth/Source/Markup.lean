import ImportDepth.Source.TypeSyntax

/-! Markup elements inside expressions. The text between tags is taken as it stands; only what is in
braces is read as source. -/
namespace ImportDepth.Source

/-- Names of elements and attributes may hold dashes. -/
def markupNameLength (bytes : Bytes) : Nat :=
  if nameLength bytes = 0 then 0 else tail bytes.length bytes
where
  tail : Nat → Bytes → Nat
    | 0, _ => 0
    | fuel + 1, bytes =>
      match charLength (fun c => isNameMember c || c = '-') bytes with
      | 0 => 0
      | n + 1 => n + 1 + tail fuel (bytes.drop (n + 1))

def markupName (kind : String) (other : isCharacterReference kind = false := by exact Eq.refl false) : Rule :=
  token kind true markupNameLength trivia fun _ same => absurd same (of_decide_eq_false other)

/-- The name of an element: plain, with a namespace, or a member of a variable. -/
def elementName : Rule :=
  markupName "identifier" ++
    (Rule.some (mark "." ++ markupName "property_identifier") <|>
      Rule.optional (mark ":" ++ markupName "identifier"))

/-- An expression in braces, which may be left out or spread. -/
def embedded (g : Grammar) : Rule :=
  node "jsx_expression" (
    mark "\x7b" ++ Rule.optional (spread g <|> g.expression) ++ mark "\x7d")

def markupAttribute (g : Grammar) : Rule :=
  embedded g <|>
    node "jsx_attribute" (
      markupName "property_identifier" ++
      Rule.optional (mark ":" ++ markupName "property_identifier") ++
      Rule.optional (mark "=" ++ (attributeString <|> embedded g <|> g.read .element)))

def tagOpening (g : Grammar) : Rule :=
  mark "<" ++ elementName ++ g.typedOptional (typeArguments g) ++ Rule.many (markupAttribute g)

def markupText : Rule :=
  immediate "jsx_text" true fun bytes => (bytes.takeWhile fun b => b ≠ 0x3C && b ≠ 0x7B).length

def content (g : Grammar) : Rule := Rule.many (markupText <|> embedded g <|> g.read .element)

/-- One element with its content, or a fragment without a name. -/
def element (g : Grammar) : Rule :=
  node "jsx_element" (
    (tagOpening g ++
      ((mark "/" ++ closingAngle) <|>
        (closingAngle ++ content g ++ mark "<" ++ mark "/" ++ elementName ++ closingAngle))) <|>
    (mark "<" ++ closingAngle ++ content g ++ mark "<" ++ mark "/" ++ closingAngle))

end ImportDepth.Source
