import ImportDepth.Data.Display
import ImportDepth.Finding
import ImportDepth.Specifier
import ImportDepth.Syntax.Walk

/-! The rule that relative specifiers must not climb too far. It is asked about references one at a
time and reports the nodes of those that exceed its limit. -/
namespace ImportDepth

structure DepthRule where
  limit : Nat
  deriving DecidableEq

namespace DepthRule

def name : Text := "no-deep-relative-imports"

def names : List Text := [name]

def defaultLimit : Nat := 2

instance : Inhabited DepthRule := ⟨⟨defaultLimit⟩⟩

inductive LimitError where
  | notInteger (found : Value)
  | negative (found : Int)

def LimitError.message : LimitError → Text
  | notInteger found => "max_depth must be an integer, got " ++ found.display
  | negative found => "max_depth must be >= 0, got " ++ Text.ofInt found

/-- The limit that a value states. A truth value is no integer. -/
def limitOf : Value → Except LimitError Nat
  | .int (.ofNat n) => .ok n
  | .int n => .error (.negative n)
  | found => .error (.notInteger found)

/-- The violation by a reference. One without a known specifier is never a violation. -/
def check (rule : DepthRule) (reference : Reference) : Option Violation :=
  reference.specifier?.bind (Specifier.classify · rule.limit)

/-- The reports on references that are held by values of any type, in order. -/
def reports {α : Type} (rule : DepthRule) (held : List (α × Reference)) : List (α × Text) :=
  held.filterMap fun (holder, reference) =>
    (rule.check reference).map fun violation => (holder, violation.message)

/-- The references that a walk over a tree meets, each with the node that holds it. -/
def references (root : Node) : Except CharacterReference.Fault (List (Node × Reference)) :=
  (Walk.select Node.referenceKinds root).filterMapM fun n => return (← n.reference?).map (n, ·)

def reportTree (rule : DepthRule) (root : Node) :
    Except CharacterReference.Fault (List (Node × Text)) :=
  return rule.reports (← references root)

/-- How many nodes of a tree the rule looks at on a walk to its end. -/
def inspected (root : Node) : Nat := (Walk.select Node.referenceKinds root).length

/-- The findings in a tree, in document order. Each reported node is looked at again. -/
def findings (rule : DepthRule) (path : Text) (root : Node) :
    Except CharacterReference.Fault (List Finding) := do
  (← rule.reportTree root).mapM fun (n, message) => Finding.ofNode path name n message

end DepthRule
end ImportDepth
