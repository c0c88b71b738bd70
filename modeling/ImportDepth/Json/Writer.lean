import ImportDepth.Data.Display

/-! Writing JSON over several lines, indented by two spaces a level. All but quotes, backslashes and
control characters stands for itself. What has no JSON form is refused: integers beyond 64 bits and
text with surrogates. -/
namespace ImportDepth.Json

inductive Unwritable where
  | integerRange
  | surrogate
  deriving DecidableEq, Repr

def Unwritable.message : Unwritable → Text
  | integerRange => "Integer exceeds 64-bit range"
  | surrogate => "str is not valid UTF-8: surrogates not allowed"

/-- Integers that have a signed or an unsigned form of 64 bits. -/
def fits (n : Int) : Bool := -9223372036854775808 ≤ n && n ≤ 18446744073709551615

def hasSurrogate (t : Text) : Bool := t.any (·.IsSurrogate)

def escaped (c : CodePoint) : Text :=
  if c = '"' then "\\\""
  else if c = '\\' then "\\\\"
  else if c.val = 0x8 then "\\b"
  else if c.val = 0x9 then "\\t"
  else if c.val = 0xA then "\\n"
  else if c.val = 0xC then "\\f"
  else if c.val = 0xD then "\\r"
  else if c.val < 0x20 then "\\u" ++ Text.hexDigits 4 c.val
  else [c]

def quote (t : Text) : Text := "\"" ++ t.flatMap escaped ++ "\""

def newline (depth : Nat) : Text := '\n' :: List.replicate (2 * depth) (' ' : CodePoint)

mutual

/-- The first reason why a value cannot be written, in the order of writing. -/
def obstacle? : Value → Option Unwritable
  | .null | .bool _ | .float _ => none
  | .int n => if fits n then none else some .integerRange
  | .text t | .moment t => if hasSurrogate t then some .surrogate else none
  | .list items => obstacleInItems? items
  | .table entries => obstacleInEntries? entries

def obstacleInItems? : List Value → Option Unwritable
  | [] => none
  | v :: rest => (obstacle? v).orElse fun _ => obstacleInItems? rest

def obstacleInEntries? : List (Text × Value) → Option Unwritable
  | [] => none
  | (key, v) :: rest =>
    (obstacle? (.text key)).orElse fun _ => (obstacle? v).orElse fun _ => obstacleInEntries? rest

end

mutual

def layout (depth : Nat) : Value → Text
  | .null => "null"
  | .bool b => if b then "true" else "false"
  | .int n => Text.ofInt n
  | .float x => x.display
  | .text t | .moment t => quote t
  | .list [] => "[]"
  | .list (v :: rest) =>
    "[" ++ newline (depth + 1) ++ layout (depth + 1) v ++ layoutItems (depth + 1) rest ++
      newline depth ++ "]"
  | .table [] => "\x7b\x7d"
  | .table ((key, v) :: rest) =>
    "\x7b" ++ newline (depth + 1) ++ quote key ++ ": " ++ layout (depth + 1) v ++
      layoutEntries (depth + 1) rest ++ newline depth ++ "\x7d"

def layoutItems (depth : Nat) : List Value → Text
  | [] => []
  | v :: rest => "," ++ newline depth ++ layout depth v ++ layoutItems depth rest

def layoutEntries (depth : Nat) : List (Text × Value) → Text
  | [] => []
  | (key, v) :: rest =>
    "," ++ newline depth ++ quote key ++ ": " ++ layout depth v ++ layoutEntries depth rest

end

def write (v : Value) : Except Unwritable Text :=
  match obstacle? v with
  | some reason => .error reason
  | none => .ok (layout 0 v)

end ImportDepth.Json
