import ImportDepth.CommandLine.Flag
import ImportDepth.Text.Quoted

/-! What the program says about itself and about command lines that it does not understand. -/
namespace ImportDepth.CommandLine

/-- What has a usage text: the program and each of its commands. -/
inductive Topic where
  | program
  | check
  | rules
  deriving DecidableEq, Repr

namespace Topic

def name : Topic → Text
  | program => "depthlint"
  | check => "depthlint check"
  | rules => "depthlint rules"

def flags : Topic → List Flag
  | program | rules => [.help]
  | check => [.help, .maxDepth, .format]

def usage : Topic → Text
  | program => "usage: depthlint [-h] \x7bcheck,rules\x7d ...\n"
  | check =>
    "usage: depthlint check [-h] [--max-depth MAX_DEPTH] [--format \x7btext,json\x7d]\n" ++
    "                       [root]\n"
  | rules => "usage: depthlint rules [-h]\n"

/-- What follows the usage in the help. -/
def details : Topic → Text
  | program =>
    "\npositional arguments:\n" ++
    "  \x7bcheck,rules\x7d\n" ++
    "    check        Report relative imports that climb too many directories\n" ++
    "    rules        List available rules\n" ++
    "\noptions:\n" ++
    "  -h, --help     show this help message and exit\n"
  | check =>
    "\npositional arguments:\n" ++
    "  root                  Directory to lint (default: .)\n" ++
    "\noptions:\n" ++
    "  -h, --help            show this help message and exit\n" ++
    "  --max-depth MAX_DEPTH\n" ++
    "                        Maximum number of '../' segments (default: config\n" ++
    "                        max_depth)\n" ++
    "  --format \x7btext,json\x7d  Output format (default: text)\n"
  | rules =>
    "\noptions:\n" ++
    "  -h, --help  show this help message and exit\n"

end Topic

inductive Misuse where
  | ambiguous (written : Text) (names : List Text)
  /-- An option that takes no value was given one. -/
  | ignoredValue (f : Flag) (value : Text)
  | missingValue (f : Flag)
  | notInteger (f : Flag) (value : Text)
  | unknownFormat (value : Text)
  | unknownCommand (value : Text)
  | missingCommand
  | unrecognized (arguments : List Text)
  deriving DecidableEq

namespace Misuse

def aboutFlag (f : Flag) (said : Text) : Text := "argument " ++ f.label ++ ": " ++ said

def invalidChoice (value : Text) (choices : List Text) : Text :=
  "invalid choice: " ++ value.quoted ++ " (choose from " ++
    Text.join ", " (choices.map Text.quoted) ++ ")"

def message : Misuse → Text
  | ambiguous written names =>
    "ambiguous option: " ++ written ++ " could match " ++ Text.join ", " names
  | ignoredValue f value => aboutFlag f ("ignored explicit argument " ++ value.quoted)
  | missingValue f => aboutFlag f "expected one argument"
  | notInteger f value => aboutFlag f ("invalid int value: " ++ value.quoted)
  | unknownFormat value => aboutFlag .format (invalidChoice value ["text", "json"])
  | unknownCommand value => "argument command: " ++ invalidChoice value ["check", "rules"]
  | missingCommand => "the following arguments are required: command"
  | unrecognized arguments => "unrecognized arguments: " ++ Text.join " " arguments

end Misuse

/-- Why a command line asks for nothing to be done. -/
inductive Stop where
  | help (topic : Topic)
  | misuse (topic : Topic) (misuse : Misuse)
  deriving DecidableEq

end ImportDepth.CommandLine
