import ImportDepth.Text.Basic

/-! Sets in brackets, as file patterns write them. An exclamation mark after the opening bracket turns
the set around, and a closing bracket that comes first is a member of it. -/
namespace ImportDepth.Bracket

/-- How many code points at the beginning cannot close the set. -/
def leadLength (t : Text) : Nat :=
  let mark := if t.head? = some '!' then 1 else 0
  if (t.drop mark).head? = some ']' then mark + 1 else mark

/-- What stands between an opening bracket, which has been read, and the bracket that closes it. -/
def content? (t : Text) : Option Text :=
  let lead := leadLength t
  let inner := (t.drop lead).takeWhile fun c => c ≠ (']' : CodePoint)
  if lead + inner.length < t.length then some (t.take lead ++ inner) else none

end ImportDepth.Bracket
