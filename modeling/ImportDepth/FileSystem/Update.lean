import ImportDepth.FileSystem.Basic

/-! Changes to a file system. A file is written where its path leads, through links if there are any,
and missing directories on the way are made. Every change keeps names proper and different. -/
namespace ImportDepth

namespace Entry

/-- Entries with one of them set; a new one is listed last. -/
def set (entries : List (Text × Entry)) (name : Text) (e : Entry) : List (Text × Entry) :=
  match entries with
  | [] => [(name, e)]
  | (n, old) :: rest => if n = name then (n, e) :: rest else (n, old) :: set rest name e

/-- An entry with another one put at a path below it; what is in the way becomes a directory. -/
def put (e : Entry) (new : Entry) : List Text → Entry
  | [] => new
  | name :: rest =>
    match e with
    | directory entries =>
      directory (set entries name (((entries.lookup name).getD (directory [])).put new rest))
    | _ => directory [(name, (directory []).put new rest)]

def erase (e : Entry) : List Text → Entry
  | [] => e
  | [name] =>
    match e with
    | directory entries => directory (entries.filter fun entry => entry.1 ≠ name)
    | _ => e
  | name :: rest =>
    match e with
    | directory entries =>
      match entries.lookup name with
      | some child => directory (set entries name (child.erase rest))
      | none => e
    | _ => e

variable {name : Text} {e new : Entry} {entries : List (Text × Entry)}

theorem mem_set {entry : Text × Entry} (member : entry ∈ set entries name e) :
    entry.1 = name ∨ entry ∈ entries := by
  induction entries with
  | nil => simp_all [set]
  | cons first rest ih =>
    rw [set] at member
    split at member
    · rcases List.mem_cons.mp member with rfl | member
      · exact .inl ‹_›
      · exact .inr (.tail _ member)
    · rcases List.mem_cons.mp member with rfl | member
      · exact .inr (.head _)
      · exact (ih member).imp_right (.tail _)

theorem areWellFormed_set (sound : areWellFormed entries = true) (proper : isName name = true)
    (inner : e.isWellFormed = true) : areWellFormed (set entries name e) = true := by
  induction entries with
  | nil => simp [set, areWellFormed, proper, inner]
  | cons first rest ih =>
    obtain ⟨n, old⟩ := first
    obtain ⟨firstProper, different, firstInner, others⟩ := areWellFormed_cons.mp sound
    rw [set]
    split
    · exact areWellFormed_cons.mpr ⟨firstProper, different, inner, others⟩
    · rename_i other
      refine areWellFormed_cons.mpr ⟨firstProper, ?_, firstInner, ih others⟩
      intro entry member
      rcases mem_set member with same | member
      · exact fun equal => other (equal.symm.trans same)
      · exact different entry member

theorem areWellFormed_filter (sound : areWellFormed entries = true) (p : Text × Entry → Bool) :
    areWellFormed (entries.filter p) = true := by
  induction entries with
  | nil => rfl
  | cons first rest ih =>
    obtain ⟨n, old⟩ := first
    obtain ⟨proper, different, inner, others⟩ := areWellFormed_cons.mp sound
    rw [List.filter_cons]
    split
    · refine areWellFormed_cons.mpr ⟨proper, ?_, inner, ih others⟩
      exact fun entry member => different entry (List.mem_filter.mp member).1
    · exact ih others

theorem isWellFormed_put {p : List Text} (sound : e.isWellFormed = true)
    (inner : new.isWellFormed = true) (proper : p.all isName = true) :
    (e.put new p).isWellFormed = true := by
  induction p generalizing e with
  | nil => simpa [put] using inner
  | cons name rest ih =>
    simp only [List.all_cons, Bool.and_eq_true] at proper
    cases e with
    | directory entries =>
      rw [isWellFormed] at sound
      rw [put, isWellFormed]
      refine areWellFormed_set sound proper.1 (ih ?_ proper.2)
      cases found : entries.lookup name with
      | none => rfl
      | some child => exact (areWellFormed_lookup sound found).2
    | file content | link target =>
      have made := ih (e := directory []) rfl proper.2
      simp [put, isWellFormed, areWellFormed, proper.1, made]

theorem isWellFormed_erase {p : List Text} (sound : e.isWellFormed = true) :
    (e.erase p).isWellFormed = true := by
  fun_induction erase e p with
  | case1 e => exact sound
  | case2 name entries =>
    rw [isWellFormed] at sound ⊢
    exact areWellFormed_filter sound _
  | case3 name e other => exact sound
  | case4 name rest several entries child found ih =>
    rw [isWellFormed] at sound ⊢
    obtain ⟨proper, inner⟩ := areWellFormed_lookup sound found
    exact areWellFormed_set sound proper (ih inner)
  | case5 name rest several entries missing => exact sound
  | case6 e name rest several other => exact sound

end Entry

namespace FileSystem

inductive Refusal where
  | missing (reason : Missing)
  | exists
  | isDirectory
  deriving DecidableEq, Repr

/-- The file system with an entry put under a path, whose components must be names. -/
def put (fs : FileSystem) (p : Path) (e : Entry) (sound : e.isWellFormed = true) :
    Except Refusal FileSystem :=
  if proper : p.all Entry.isName then
    .ok ⟨fs.root.put e p, Entry.isWellFormed_put fs.wellFormed sound proper⟩
  else .error (.missing .noEntry)

/-- The directory that a row of components leads to from a directory, made where it is missing. -/
def makeFrom (fs : FileSystem) (here : Path) : List Text → Except Refusal (FileSystem × Path)
  | [] => .ok (fs, here)
  | part :: rest =>
    match fs.find (here ++ [part]) with
    | .ok ⟨path, .directory _⟩ => makeFrom fs path rest
    | .ok _ => .error .exists
    | .error .noEntry => do
      if fs.isLink (here ++ [part]) then .error .exists
      else makeFrom (← fs.put (here ++ [part]) (.directory []) rfl) (here ++ [part]) rest
    | .error reason => .error (.missing reason)

/-- The file system with a directory and all directories above it. -/
def makeDirectory (fs : FileSystem) (p : Path) : Except Refusal FileSystem :=
  (fs.makeFrom [] p).map (·.1)

/-- The path that a new file under a path would have, links at its end followed. -/
def destination (fs : FileSystem) : Nat → Path → Text → Except Refusal Path
  | 0, _, _ => .error (.missing .tooManyLinks)
  | n + 1, here, name =>
    match fs.get? (here ++ [name]) with
    | some (.link target) =>
      let parts := Path.components target
      match fs.find (linkStart here target ++ parts.dropLast), parts.getLast? with
      | .ok ⟨path, .directory _⟩, some last => fs.destination n path last
      | .ok _, _ => .error .isDirectory
      | .error reason, _ => .error (.missing reason)
    | some (.directory _) => .error .isDirectory
    | _ => .ok (here ++ [name])

def write (fs : FileSystem) (p : Path) (content : Bytes) : Except Refusal FileSystem := do
  match p.getLast? with
  | none => .error .isDirectory
  | some name =>
    let (fs, parent) ← fs.makeFrom [] p.dropLast
    let target ← fs.destination (linkLimit + 1) parent name
    fs.put target (.file content) rfl

def addLink (fs : FileSystem) (p : Path) (target : Text) : Except Refusal FileSystem := do
  match p.getLast? with
  | none => .error .exists
  | some name =>
    let (fs, parent) ← fs.makeFrom [] p.dropLast
    match fs.get? (parent ++ [name]) with
    | some _ => .error .exists
    | none => fs.put (parent ++ [name]) (.link target) rfl

/-- The file system without a file, a link or a whole directory. -/
def remove (fs : FileSystem) (p : Path) : Except Refusal FileSystem :=
  match fs.findLink p with
  | .ok ⟨path, _⟩ => .ok ⟨fs.root.erase path, Entry.isWellFormed_erase fs.wellFormed⟩
  | .error reason => .error (.missing reason)

end FileSystem
end ImportDepth
