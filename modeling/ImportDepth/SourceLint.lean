import ImportDepth.DepthRule
import ImportDepth.Proofs.Source

/-! What is looked up in one source: its references, its string literals, and the findings of the
rule. -/
namespace ImportDepth.Source

def references (dialect : Dialect) (bytes : Bytes) :
    Except CharacterReference.Fault (List (Node × Reference)) :=
  DepthRule.references (parse dialect bytes)

def literals (dialect : Dialect) (bytes : Bytes) : Except CharacterReference.Fault (List Text) :=
  (parse dialect bytes).preorder.filterMapM (·.literal?)

/-- The findings of the rule in a source, in document order. There is always an answer, because no
source holds a character reference that cannot be read. -/
def lint (rule : DepthRule) (path : Text) (dialect : Dialect) (bytes : Bytes) : List Finding :=
  match answer : rule.findings path (parse dialect bytes) with
  | .ok findings => findings
  | .error _ => absurd answer (findings_parse_ne_error rule path dialect bytes)

theorem findings_parse (rule : DepthRule) (path : Text) (dialect : Dialect) (bytes : Bytes) :
    rule.findings path (parse dialect bytes) = .ok (lint rule path dialect bytes) := by
  unfold lint
  split
  · assumption
  · rename_i answer
    exact absurd answer (findings_parse_ne_error rule path dialect bytes)

end ImportDepth.Source
