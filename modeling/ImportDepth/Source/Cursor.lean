import ImportDepth.Source.Tree

/-! Reading position in a source, and parsers over it. A parser that fails leaves no trace, so that
alternatives can be tried one after the other from the same place. -/
namespace ImportDepth.Source

structure Cursor where
  rest : Bytes
  position : Position := {}
  /-- Where the last token ended. Blanks and comments do not count. -/
  ended : Position := {}

def Position.after (p : Position) (b : UInt8) : Position :=
  if b = 0x0A then ⟨p.row + 1, 0⟩ else ⟨p.row, p.col + 1⟩

namespace Cursor

def skip : Nat → Cursor → Cursor
  | 0, c => c
  | n + 1, c =>
    match c.rest with
    | [] => c
    | b :: rest => skip n { c with rest := rest, position := Position.after c.position b }

end Cursor

abbrev Parser := StateT Cursor Option

/-- A grammar rule yields the trees that it has read, comments among them. -/
abbrev Rule := Parser (List Tree)

namespace Parser

def rest : Parser Bytes := return (← get).rest

def position : Parser Position := return (← get).position

def ended : Parser Position := return (← get).ended

def skip (n : Nat) : Parser Unit := modify (·.skip n)

def endToken : Parser Unit := modify fun c => { c with ended := c.position }

def guard (condition : Bool) : Parser Unit := if condition then pure () else failure

/-- What a parser would read, with nothing read; nothing if it would fail. -/
def ahead? {α : Type} (p : Parser α) : Parser (Option α) := fun c => some ((p c).map (·.1), c)

def isAhead {α : Type} (p : Parser α) : Parser Bool := fun c => some ((p c).isSome, c)

end Parser

namespace Rule

def andThen (first second : Rule) : Rule := do return (← first) ++ (← second)

instance : Append Rule := ⟨andThen⟩

def none : Rule := pure []

def optional (r : Rule) : Rule := r <|> none

def all (rules : List Rule) : Rule := rules.foldr andThen none

def oneOf (rules : List Rule) : Rule := rules.foldr (fun r others => r <|> others) failure

/-- A rule repeated up to a number of times, while it applies and reads anything. -/
def repeatFrom (r : Rule) : Nat → Cursor → List Tree × Cursor
  | 0, c => ([], c)
  | n + 1, c =>
    match r c with
    | .none => ([], c)
    | some (trees, next) =>
      if next.position = c.position then ([], c)
      else
        let (more, last) := repeatFrom r n next
        (trees ++ more, last)

def many (r : Rule) : Rule := fun c => some (repeatFrom r c.rest.length c)

def some (r : Rule) : Rule := r ++ many r

def separated (item separator : Rule) : Rule := item ++ many (separator ++ item)

/-- The rule, with the last of its trees in a field of the parent. -/
def field (name : String) (r : Rule) : Rule := do
  let trees ← r
  match trees.getLast? with
  | .none => return trees
  | Option.some last => return trees.dropLast ++ [last.withField name]

end Rule
end ImportDepth.Source
