import ImportDepth.Text.Basic
import ImportDepth.Text.Digit

/-! The arguments of a command line, told apart before any of them is used: options, values, and the
separator after which everything is a value. Long options may be cut short and may carry their value
after an equals sign. -/
namespace ImportDepth.CommandLine

inductive Flag where
  | help
  | maxDepth
  | format
  deriving DecidableEq, Repr

namespace Flag

def names : Flag → List Text
  | help => ["-h", "--help"]
  | maxDepth => ["--max-depth"]
  | format => ["--format"]

/-- All names, as messages give them. -/
def label (f : Flag) : Text := Text.join "/" f.names

end Flag

def namesOf (flags : List Flag) : List (Text × Flag) :=
  flags.flatMap fun f => f.names.map fun name => (name, f)

/-- What follows the name of an option in the same argument. -/
inductive Attached where
  | nothing
  /-- A value after an equals sign. -/
  | value (t : Text)
  /-- Further letters after a name of one letter. -/
  | letters (t : Text)
  deriving DecidableEq

inductive Argument where
  | separator
  | value (written : Text)
  | flag (f : Flag) (name : Text) (attached : Attached)
  /-- An option that is not known. -/
  | unknown (written : Text)
  deriving DecidableEq

namespace Argument

/-- Whether a text consists of digits of any script, at least one. -/
def isDigits (t : Text) : Bool := !t.isEmpty && t.all fun c => c.decimalValue?.isSome

/-- A negative number, which is a value and no option. A line feed may end it. -/
def isNegativeNumber (written : Text) : Bool :=
  let t := if written.getLast? = some '\n' then written.dropLast else written
  match t with
  | c :: rest =>
    let whole := rest.takeWhile fun d => d ≠ ('.' : CodePoint)
    c = '-' && (isDigits rest ||
      ((whole.isEmpty || isDigits whole) && isDigits (rest.drop (whole.length + 1))))
  | [] => false

/-- The argument at its first equals sign: the name, and the value if there is the sign. -/
def split (written : Text) : Text × Option Text :=
  let name := written.takeWhile fun c => c ≠ ('=' : CodePoint)
  (name, if name.length < written.length then some (written.drop (name.length + 1)) else none)

def attachedValue : Option Text → Attached
  | some t => .value t
  | none => .nothing

/-- The options that a written one can stand for: long ones that begin as it does, or a letter with
further letters after it. -/
def candidates (flags : List Flag) (written : Text) : List (Text × Flag × Attached) :=
  if ("--" : Text).isPrefixOf written then
    let (name, value?) := split written
    ((namesOf flags).filter fun (n, _) => name.isPrefixOf n).map fun (n, f) =>
      (n, f, attachedValue value?)
  else
    ((namesOf flags).filter fun (n, _) => n = written.take 2).map fun (n, f) =>
      (n, f, .letters (written.drop 2))

/-- An argument, or the options between which it does not decide. -/
def ofText (flags : List Flag) (written : Text) : Except (List Text) Argument :=
  if written = "--" then .ok .separator
  else if !("-" : Text).isPrefixOf written || written.length = 1 then .ok (.value written)
  else
    match (namesOf flags).lookup written with
    | some f => .ok (.flag f written .nothing)
    | none =>
      let (name, value?) := split written
      match value?.bind fun t => ((namesOf flags).lookup name).map fun f => (f, t) with
      | some (f, t) => .ok (.flag f name (.value t))
      | none =>
        match candidates flags written with
        | [(n, f, attached)] => .ok (.flag f n attached)
        | [] =>
          if isNegativeNumber written || written.contains ' ' then .ok (.value written)
          else .ok (.unknown written)
        | several => .error (several.map (·.1))

/-- The arguments of a command line, or one that is ambiguous with what it could stand for. -/
def ofTexts (flags : List Flag) : List Text → Except (Text × List Text) (List Argument)
  | [] => .ok []
  | written :: rest =>
    match ofText flags written with
    | .error names => .error (written, names)
    | .ok .separator => .ok (.separator :: rest.map .value)
    | .ok argument => (ofTexts flags rest).map (argument :: ·)

end Argument
end ImportDepth.CommandLine
