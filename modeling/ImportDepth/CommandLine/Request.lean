import ImportDepth.CommandLine.Usage
import ImportDepth.Text.Integer

/-! What a command line asks for. Arguments are taken from left to right, and the last value of an
option counts. What nobody takes is complained about at the end. -/
namespace ImportDepth.CommandLine

inductive Format where
  | text
  | json
  deriving DecidableEq, Repr

def Format.ofName? (written : Text) : Option Format :=
  if written = "text" then some .text else if written = "json" then some .json else none

inductive Request where
  /-- Look at the files below a directory. -/
  | check (root : Text) (maxDepth : Option Int) (format : Format)
  /-- List the rules. -/
  | rules
  deriving DecidableEq

/-- The letters after the one for help. Another such letter may follow, and one that is not known is
left alone; a value is never taken. -/
def helpLetters (topic : Topic) : Text → Stop
  | [] => .help topic
  | c :: rest =>
    if c = '-' then .misuse topic (.ignoredValue .help (c :: rest))
    else if c = 'h' then
      match rest with
      | [] => .help topic
      | d :: more =>
        if d = '=' then .misuse topic (.ignoredValue .help more) else helpLetters topic (d :: more)
    else .help topic

def helpWith (topic : Topic) : Attached → Stop
  | .nothing => .help topic
  | .value t => .misuse topic (.ignoredValue .help t)
  | .letters t => helpLetters topic t

def defaultRoot : Text := "."

structure CheckArguments where
  root? : Option Text := none
  maxDepth? : Option Int := none
  format : Format := .text
  /-- What nobody took. -/
  extras : List Text := []

namespace CheckArguments

def set (a : CheckArguments) (f : Flag) (value : Text) : Except Stop CheckArguments :=
  match f with
  | .help => .error (.help .check)
  | .maxDepth =>
    match value.integer? 10 with
    | some n => .ok { a with maxDepth? := some n }
    | none => .error (.misuse .check (.notInteger .maxDepth value))
  | .format =>
    match Format.ofName? value with
    | some format => .ok { a with format := format }
    | none => .error (.misuse .check (.unknownFormat value))

/-- The arguments with a value that is no option: the root, if that is not known yet. `written` is
what else goes unclaimed. -/
def place (a : CheckArguments) (value : Text) (written : List Text) : CheckArguments :=
  if a.root?.isNone then { a with root? := some value }
  else { a with extras := a.extras ++ written }

/-- The arguments after all further ones. A separator next to the root goes with it. -/
def take (a : CheckArguments) : List Argument → Except Stop CheckArguments
  | [] => .ok a
  | .value t :: .separator :: rest => (a.place t [t, "--"]).take rest
  | .value t :: rest => (a.place t [t]).take rest
  | .separator :: .value t :: rest => (a.place t ["--", t]).take rest
  | .separator :: rest => (a.place defaultRoot ["--"]).take rest
  | .unknown t :: rest => { a with extras := a.extras ++ [t] }.take rest
  | .flag .help _ attached :: _ => .error (helpWith .check attached)
  | .flag f _ (.value t) :: rest => do (← a.set f t).take rest
  | .flag f _ (.letters t) :: rest => do (← a.set f t).take rest
  | .flag f _ .nothing :: .value t :: rest => do (← a.set f t).take rest
  | .flag f _ .nothing :: _ => .error (.misuse .check (.missingValue f))

end CheckArguments

def takeNothing : List Argument → Except Stop (List Text)
  | [] => .ok []
  | .separator :: rest => (takeNothing rest).map ("--" :: ·)
  | .value t :: rest | .unknown t :: rest => (takeNothing rest).map (t :: ·)
  | .flag _ _ attached :: _ => .error (helpWith .rules attached)

def argumentsOf (topic : Topic) (texts : List Text) : Except Stop (List Argument) :=
  (Argument.ofTexts topic.flags texts).mapError fun (written, names) =>
    .misuse topic (.ambiguous written names)

/-- The request that a command with its arguments makes, and what nobody took. -/
def commandRequest (name : Text) (texts : List Text) : Except Stop (Request × List Text) := do
  if name = "check" then
    let a ← CheckArguments.take {} (← argumentsOf .check texts)
    return (.check (a.root?.getD defaultRoot) a.maxDepth? a.format, a.extras)
  else if name = "rules" then
    return (.rules, ← takeNothing (← argumentsOf .rules texts))
  else throw (.misuse .program (.unknownCommand name))

/-- The request after options that nobody took. -/
def Request.ofTextsAfter (extras : List Text) : List Text → Except Stop Request
  | [] => .error (.misuse .program .missingCommand)
  | written :: rest =>
    match Argument.ofText Topic.program.flags written with
    | .error names => .error (.misuse .program (.ambiguous written names))
    | .ok (.flag _ _ attached) => .error (helpWith .program attached)
    | .ok (.unknown t) => ofTextsAfter (extras ++ [t]) rest
    | .ok .separator =>
      .error (.misuse .program (if rest.isEmpty then .missingCommand else .unknownCommand written))
    | .ok (.value name) => do
      let (request, others) ← commandRequest name rest
      match extras ++ others with
      | [] => return request
      | unrecognized => throw (.misuse .program (.unrecognized unrecognized))

def Request.ofTexts (texts : List Text) : Except Stop Request := ofTextsAfter [] texts

end ImportDepth.CommandLine
