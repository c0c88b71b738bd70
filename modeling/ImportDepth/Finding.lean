import ImportDepth.Reference

/-! Findings: one offending node each, with its place in a file counted from one. -/
namespace ImportDepth

structure Finding where
  path : Text
  line : Int
  col : Int
  endLine : Int
  endCol : Int
  rule : Text
  specifier : Option Text
  message : Text
  deriving DecidableEq

namespace Finding

def location (f : Finding) : Text :=
  f.path ++ ":" ++ Text.ofInt f.line ++ ":" ++ Text.ofInt f.col

def about (path rule : Text) (n : Node) (specifier : Option Text) (message : Text) : Finding where
  path := path
  line := n.span.start.row + 1
  col := n.span.start.col + 1
  endLine := n.span.stop.row + 1
  endCol := n.span.stop.col + 1
  rule := rule
  specifier := specifier
  message := message

/-- The finding for a node; the specifier is that of the reference which the node is. -/
def ofNode (path rule : Text) (n : Node) (message : Text) : Except CharacterReference.Fault Finding :=
  return about path rule n (← n.specifier?) message

end Finding
end ImportDepth
