import ImportDepth.Path
import ImportDepth.Text.Utf8

/-! File systems as values: trees of directories, files and symbolic links. The entries of a directory
stand in the order in which it lists them, under proper names of which none occurs twice.

These file systems are ideal. There are no permissions, so that every file can be read and every directory
be listed, and nothing limits the length of a name or of a path or the depth of the tree; the one limit is
that on the links followed in one lookup. They also stand still while they are read. What a scan finds to be
a file is therefore a file when it is opened, and a program's branch for files that cannot be read is
never taken for it. -/
namespace ImportDepth

inductive Entry where
  | file (content : Bytes)
  /-- A symbolic link with the path that it holds. -/
  | link (target : Text)
  | directory (entries : List (Text × Entry))

namespace Entry

instance : Inhabited Entry := ⟨directory []⟩

def isDirectory : Entry → Bool
  | directory _ => true
  | _ => false

def isName (name : Text) : Bool :=
  name ≠ [] && name ≠ ("." : Text) && name ≠ (".." : Text) && !name.contains '/'

mutual

/-- Whether every directory in an entry has proper names, each of them once. -/
def isWellFormed : Entry → Bool
  | file _ => true
  | link _ => true
  | directory entries => areWellFormed entries

def areWellFormed : List (Text × Entry) → Bool
  | [] => true
  | (name, e) :: rest =>
    isName name && rest.all (fun entry => entry.1 ≠ name) && e.isWellFormed && areWellFormed rest

end

theorem areWellFormed_cons {name : Text} {e : Entry} {rest : List (Text × Entry)} :
    areWellFormed ((name, e) :: rest) = true ↔
      isName name = true ∧ (∀ entry ∈ rest, entry.1 ≠ name) ∧ e.isWellFormed = true ∧
        areWellFormed rest = true := by
  simp [areWellFormed, and_assoc]

/-- What a well-formed directory holds under a name is well-formed, and the name is proper. -/
theorem areWellFormed_lookup {name : Text} {e : Entry} {entries : List (Text × Entry)}
    (sound : areWellFormed entries = true) (found : entries.lookup name = some e) :
    isName name = true ∧ e.isWellFormed = true := by
  induction entries with
  | nil => simp at found
  | cons entry rest ih =>
    obtain ⟨n, old⟩ := entry
    obtain ⟨proper, _, inner, others⟩ := areWellFormed_cons.mp sound
    rw [List.lookup_cons] at found
    split at found
    · rename_i same
      cases found
      exact ⟨(beq_iff_eq.mp same) ▸ proper, inner⟩
    · exact ih others found

/-- What is below an entry under a row of names, links not followed. -/
def get? : Entry → List Text → Option Entry
  | e, [] => some e
  | directory entries, name :: rest => (entries.lookup name).bind (get? · rest)
  | _, _ :: _ => none

mutual

def links : Entry → Nat
  | file _ => 0
  | link _ => 1
  | directory entries => linksIn entries

def linksIn : List (Text × Entry) → Nat
  | [] => 0
  | (_, e) :: rest => e.links + linksIn rest

end

end Entry

structure FileSystem where
  root : Entry := .directory []
  wellFormed : root.isWellFormed = true := by decide

namespace FileSystem

/-- The entry under a path without links. -/
def get? (fs : FileSystem) (p : Path) : Option Entry := fs.root.get? p

inductive Missing where
  | noEntry
  | notDirectory
  /-- Too many links on the way. -/
  | tooManyLinks
  deriving DecidableEq, Repr

/-- What is found under a path: the entry and the path to it on which no link lies. -/
structure Found where
  path : Path
  entry : Entry

def isAbsolute (target : Text) : Bool := ("/" : Text).isPrefixOf target

/-- Where a link's path starts if the link stands in a directory. -/
def linkStart (here : Path) (target : Text) : Path := if isAbsolute target then [] else here

/-- The components of a link's path. One that ends like the path of a directory has a dot at its end,
which only a directory allows. -/
def linkParts (target : Text) : List Text :=
  Path.components target ++
    match (target.splitOn '/').getLast? with
    | some last => if last = [] ∨ last = ("." : Text) then ["."] else []
    | none => []

/-- What one component does in a directory: it leads to a path, or to a link and what that holds. -/
inductive Move where
  | to (next : Path)
  | through (target : Text)

def Move.onto (next : Path) : Entry → Move
  | .link target => .through target
  | _ => .to next

def move (fs : FileSystem) (here : Path) (part : Text) : Except Missing Move :=
  match fs.get? here with
  | some (.directory entries) =>
    if part = (".." : Text) then .ok (.to here.dropLast)
    else if part = ("." : Text) then .ok (.to here)
    else match entries.lookup part with
      | none => .error .noEntry
      | some e => .ok (.onto (here ++ [part]) e)
  | some _ => .error .notDirectory
  | none => .error .noEntry

/-- The way from a directory along the remaining components. `again` goes on from a link, whose
components come before the rest. The last component may be a link only if links are not followed. -/
def search (fs : FileSystem) (followLast : Bool)
    (again : Path → List Text → Except Missing Found) (here : Path) :
    List Text → Except Missing Found
  | [] =>
    match fs.get? here with
    | some entry => .ok ⟨here, entry⟩
    | none => .error .noEntry
  | part :: rest =>
    match fs.move here part with
    | .error reason => .error reason
    | .ok (.to next) => search fs followLast again next rest
    | .ok (.through target) =>
      if rest = [] ∧ !followLast then .ok ⟨here ++ [part], .link target⟩
      else again (linkStart here target) (linkParts target ++ rest)

/-- The search with a number of links that may be followed, and one more. -/
def searchWithin (fs : FileSystem) (followLast : Bool) :
    Nat → Path → List Text → Except Missing Found
  | 0, _, _ => .error .tooManyLinks
  | n + 1, here, parts => search fs followLast (searchWithin fs followLast n) here parts

/-- How many links are followed on the way to one entry. -/
def linkLimit : Nat := 40

/-- What a path leads to when links are followed. -/
def find (fs : FileSystem) (p : Path) : Except Missing Found :=
  searchWithin fs true (linkLimit + 1) [] p

/-- What a path leads to when a link at its end is not followed. -/
def findLink (fs : FileSystem) (p : Path) : Except Missing Found :=
  searchWithin fs false (linkLimit + 1) [] p

def isFile (fs : FileSystem) (p : Path) : Bool :=
  match fs.find p with
  | .ok ⟨_, .file _⟩ => true
  | _ => false

def isDirectory (fs : FileSystem) (p : Path) : Bool :=
  match fs.find p with
  | .ok ⟨_, .directory _⟩ => true
  | _ => false

def isLink (fs : FileSystem) (p : Path) : Bool :=
  match fs.findLink p with
  | .ok ⟨_, .link _⟩ => true
  | _ => false

def read? (fs : FileSystem) (p : Path) : Option Bytes :=
  match fs.find p with
  | .ok ⟨_, .file content⟩ => some content
  | _ => none

def list? (fs : FileSystem) (p : Path) : Option (List (Text × Entry)) :=
  match fs.find p with
  | .ok ⟨_, .directory entries⟩ => some entries
  | _ => none

end FileSystem
end ImportDepth
