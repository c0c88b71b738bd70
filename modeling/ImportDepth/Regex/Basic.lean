import ImportDepth.Text.Basic

/-! Regular expressions of the modest kind that file patterns need. Matching keeps all places that
can be reached, so it neither misses a match nor runs away. -/
namespace ImportDepth

/-- A set of code points: those of the ranges, or all others. -/
structure CharSet where
  negated : Bool := false
  ranges : List (Nat × Nat)
  deriving DecidableEq, Repr

namespace CharSet

def mem (s : CharSet) (c : CodePoint) : Bool := c.inRanges s.ranges != s.negated

def anything : CharSet := ⟨true, []⟩

def notNewline : CharSet := ⟨true, [(0xA, 0xA)]⟩

def single (c : CodePoint) : CharSet := ⟨false, [(c.val, c.val)]⟩

end CharSet

inductive Regex where
  | empty
  | one (s : CharSet)
  /-- Any number of members of a set. -/
  | many (s : CharSet)
  | seq (first second : Regex)
  | either (first second : Regex)
  | optional (r : Regex)
  /-- The beginning of the text. -/
  | start
  /-- The end of the text, or just before a line feed that ends it. -/
  | stop
  deriving DecidableEq, Repr

namespace Regex

/-- A place in a text: whether it is the beginning, and what follows. -/
structure Place where
  atStart : Bool
  rest : Text
  deriving DecidableEq

def spread (s : CharSet) (atStart : Bool) : Text → List Place
  | [] => [⟨atStart, []⟩]
  | c :: rest => ⟨atStart, c :: rest⟩ :: if s.mem c then spread s false rest else []

def step (s : CharSet) (p : Place) : Option Place :=
  match p.rest with
  | c :: rest => if s.mem c then some ⟨false, rest⟩ else none
  | [] => none

/-- The places at which matches from the given places can end, each once. -/
def ends : Regex → List Place → List Place
  | empty, ps => ps
  | one s, ps => ps.filterMap (step s)
  | many s, ps => (ps.flatMap fun p => spread s p.atStart p.rest).eraseDups
  | seq first second, ps => second.ends (first.ends ps)
  | either first second, ps => (first.ends ps ++ second.ends ps).eraseDups
  | optional r, ps => (ps ++ r.ends ps).eraseDups
  | start, ps => ps.filter (·.atStart)
  | stop, ps => ps.filter fun p => p.rest = [] ∨ p.rest = "\n"

def places (atStart : Bool) : Text → List Place
  | [] => [⟨atStart, []⟩]
  | c :: rest => ⟨atStart, c :: rest⟩ :: places false rest

def matchesAll (r : Regex) (t : Text) : Bool := (r.ends [⟨true, t⟩]).any (·.rest = [])

def occursIn (r : Regex) (t : Text) : Bool := !(r.ends (places true t)).isEmpty

end Regex
end ImportDepth
