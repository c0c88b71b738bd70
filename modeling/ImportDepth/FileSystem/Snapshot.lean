import ImportDepth.Data.Value
import ImportDepth.FileSystem.Basic

/-! File systems as structured data: a string is a file with that text, a list of numbers is a file with
those bytes, a table under `link` a link, and a table under `directory` a directory with its entries. -/
namespace ImportDepth

namespace Entry

def bytesOf? : List Value → Option Bytes
  | [] => some []
  | .int (.ofNat n) :: rest => if n < 256 then (bytesOf? rest).map (.ofNat n :: ·) else none
  | _ :: _ => none

mutual

def ofValue? : Value → Option Entry
  | .text t => some (.file (Utf8.encode t))
  | .list items => (bytesOf? items).map .file
  | .table [(key, value)] =>
    if key = "link" then
      match value with
      | .text target => some (.link target)
      | _ => none
    else if key = "directory" then
      match value with
      | .table entries => (ofEntries? entries).map .directory
      | _ => none
    else none
  | _ => none

def ofEntries? : List (Text × Value) → Option (List (Text × Entry))
  | [] => some []
  | (name, value) :: rest =>
    match ofValue? value, ofEntries? rest with
    | some entry, some entries => some ((name, entry) :: entries)
    | _, _ => none

end

end Entry

/-- The file system whose root directory has the entries of a table. Names that cannot stand in a
directory, or stand there twice, make none. -/
def FileSystem.ofValue? : Value → Option FileSystem
  | .table entries => do
    let root := Entry.directory (← Entry.ofEntries? entries)
    if sound : root.isWellFormed then some ⟨root, sound⟩ else none
  | _ => none

end ImportDepth
