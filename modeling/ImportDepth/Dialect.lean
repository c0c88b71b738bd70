import ImportDepth.Path
import ImportDepth.Text.Quoted

/-! The three dialects of source files, and the file name extensions that select them. -/
namespace ImportDepth

inductive Dialect where
  | javascript
  | typescript
  | tsx
  deriving DecidableEq, Repr

namespace Dialect

def name : Dialect → String
  | javascript => "javascript"
  | typescript => "typescript"
  | tsx => "tsx"

def all : List Dialect := [javascript, typescript, tsx]

def ofName? (written : Text) : Option Dialect :=
  all.find? fun dialect => Text.ofString dialect.name = written

def unsupportedMessage (written : Text) : Text := "Unsupported dialect: " ++ written.quoted

/-- The extensions in the order in which they are listed to the user. -/
def extensions : List (Text × Dialect) :=
  [(".js", javascript), (".mjs", javascript), (".cjs", javascript), (".jsx", javascript),
    (".ts", typescript), (".mts", typescript), (".cts", typescript), (".tsx", tsx)]

def supportedExtensions : List Text := extensions.map (·.1)

/-- The dialect of a file, decided by the extension of its last component in lower case. -/
def ofComponents? (parts : List Text) : Option Dialect :=
  extensions.lookup (Path.suffix parts).lower

def ofPath? (written : Text) : Option Dialect := ofComponents? (Path.components written)

def hasTypes : Dialect → Bool
  | javascript => false
  | typescript | tsx => true

end Dialect
end ImportDepth
