import ImportDepth.Literal.Value

/-! References to modules: the four syntactic forms that carry a specifier. A form whose specifier
is not a plain string literal is still a reference, but one without a known specifier. -/
namespace ImportDepth

inductive Reference where
  | staticImport (specifier : Option Text)
  | dynamicImport (specifier : Option Text)
  | require (specifier : Option Text)
  | reExport (specifier : Option Text) (wildcard : Bool)
  deriving DecidableEq

namespace Reference

def specifier? : Reference → Option Text
  | staticImport specifier | dynamicImport specifier | require specifier => specifier
  | reExport specifier _ => specifier

end Reference

namespace Node

/-- A comment may stand anywhere and means nothing. -/
def isSignificant (n : Node) : Bool := n.named && n.kind ≠ "comment"

def firstArgument? (call : Node) : Option Node := do
  (← call.childByField? "arguments").children.find? (·.isSignificant)

mutual

/-- The expression inside any number of parentheses. Parentheses around anything but exactly one
expression are not taken off. -/
def unparenthesize : Node → Node
  | n@⟨kind, _, _, _, _, children⟩ =>
    if kind = "parenthesized_expression" ∧ (children.filter (·.isSignificant)).length = 1 then
      unparenthesizeFirst n children
    else n

def unparenthesizeFirst (otherwise : Node) : List Node → Node
  | [] => otherwise
  | n :: rest => if n.isSignificant then n.unparenthesize else unparenthesizeFirst otherwise rest

end

def isRequireName (n : Node) : Bool := n.isNamed "identifier" "require"

def isDynamicImportCallee (callee : Node) : Bool := callee.kind = "import"

/-- Whether the node is `require`, a member of it, or a member of that name of anything. -/
def isRequireCallee (callee : Node) : Bool :=
  let callee := callee.unparenthesize
  callee.isRequireName ||
    callee.kind = "member_expression" &&
      ((callee.childByField? "object").any (·.unparenthesize.isRequireName) ||
        (callee.childByField? "property").any (·.isNamed "property_identifier" "require"))

def isWildcardExport (n : Node) : Bool :=
  n.children.any fun child => child.kind = "*" || child.kind = "namespace_export"

def referenceKinds : List String := ["import_statement", "call_expression", "export_statement"]

/-- The form of reference that a node is, to be completed by its specifier. An export of a declaration
or of a value is none. -/
def form? (n : Node) : Option (Option Text → Reference) :=
  match n.kind with
  | "import_statement" => some .staticImport
  | "call_expression" =>
    match n.childByField? "function" with
    | none => none
    | some callee =>
      if callee.isDynamicImportCallee then some .dynamicImport
      else if callee.isRequireCallee then some .require
      else none
  | "export_statement" =>
    if (n.childByField? "source").isNone ∧ !n.isWildcardExport ∧
        ((n.childByField? "declaration").isSome ∨ (n.childByField? "value").isSome) then none
    else some (.reExport · n.isWildcardExport)
  | _ => none

def specifierNode? (n : Node) : Option Node :=
  if n.kind = "call_expression" then n.firstArgument? else n.childByField? "source"

/-- The reference that a node is, if it is one. The literal is read only then. -/
def reference? (n : Node) : Except CharacterReference.Fault (Option Reference) :=
  match n.form?, n.specifierNode? with
  | none, _ => return none
  | some form, none => return some (form none)
  | some form, some written => return some (form (← written.literal?))

def specifier? (n : Node) : Except CharacterReference.Fault (Option Text) :=
  n.reference?.map (·.bind (·.specifier?))

end Node
end ImportDepth
