import ImportDepth.FileSystem.Basic

/-! The real path of a path: every link on the way replaced by what it leads to. What does not exist
is kept as it is written. A link that leads back to itself ends the search, and what was left of the
paths on the way is put behind it as it was written; in most cases that has no real path. -/
namespace ImportDepth.FileSystem

/-- The rest of a written path behind a path, with nothing resolved. A slash at its beginning, which a
doubled slash leaves there, starts it from the root. Two of them would stand as two in the real path;
here they are one. -/
def unresolved (here : Path) : List Text → Path
  | [] :: next :: rest => next :: rest
  | rest => here ++ rest

/-- The real path of the remaining parts of a written path after a real path, and whether no link was
met that is still being followed. `again` follows a link; `pending` are the links being followed. -/
def realWith (fs : FileSystem) (again : List Path → Path → List Text → Path × Bool)
    (pending : List Path) (here : Path) : List Text → Path × Bool
  | [] => (here, true)
  | part :: rest =>
    if part = [] ∨ part = ("." : Text) then realWith fs again pending here rest
    else if part = (".." : Text) then realWith fs again pending here.dropLast rest
    else
      let next := here ++ [part]
      match fs.get? next with
      | some (.link target) =>
        if pending.contains next then (unresolved next rest, false)
        else
          match again (next :: pending) (linkStart here target) (target.splitOn '/') with
          | (reached, true) => realWith fs again pending reached rest
          | (reached, false) => (unresolved reached rest, false)
      | _ => realWith fs again pending next rest

/-- The same, with a bound on how many links are followed inside each other. -/
def realWithin (fs : FileSystem) : Nat → List Path → Path → List Text → Path × Bool
  | 0, _, here, parts => (here ++ parts, false)
  | n + 1, pending, here, parts => realWith fs (realWithin fs n) pending here parts

/-- The real path, or nothing if it runs in circles. No link is followed inside itself, so that the
number of links bounds their nesting. -/
def resolve? (fs : FileSystem) (p : Path) : Option Path :=
  let reached := (realWithin fs (fs.root.links + 1) [] [] p).1
  let real := Path.normalize (reached.filter fun part => part ≠ [] && part ≠ ("." : Text))
  match fs.find real with
  | .error .tooManyLinks => none
  | _ => some real

end ImportDepth.FileSystem
