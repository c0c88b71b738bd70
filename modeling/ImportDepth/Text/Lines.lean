import ImportDepth.Text.Basic

/-! The lines of a text. A line ends with a line feed, a carriage return, or both in that order. -/
namespace ImportDepth.Text

/-- The lines without what ends them. What follows the last end is a line too. -/
def lines : Text → List Text
  | [] => [[]]
  | c :: rest =>
    if c = '\r' then
      match rest with
      | d :: more => if d = '\n' then [] :: lines more else [] :: lines (d :: more)
      | [] => [[], []]
    else if c = '\n' then [] :: lines rest
    else match lines rest with
      | [] => [[c]]
      | line :: others => (c :: line) :: others

end ImportDepth.Text
