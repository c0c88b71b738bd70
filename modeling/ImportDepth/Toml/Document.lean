import ImportDepth.Data.Value

/-! TOML documents while they are read. Tables may be opened once, items may be added to lists of tables,
and nothing may be changed that was written as one value. -/
namespace ImportDepth.Toml

abbrev Entries := List (Text × Value)

/-- Entries with a change to those of the table at a path, if that can be reached and allows it. Tables
that are missing on the way are made. Where lists may be entered, one stands for its last item. -/
def updateAt (intoLists : Bool) (change : Entries → Option Entries) :
    List Text → Entries → Option Entries
  | [], entries => change entries
  | key :: rest, entries =>
    match entries.lookup key with
    | none =>
      (updateAt intoLists change rest []).map fun inner => Value.assign entries key (.table inner)
    | some (.table inner) =>
      (updateAt intoLists change rest inner).map fun inner => Value.assign entries key (.table inner)
    | some (.list items) =>
      match intoLists, items.getLast? with
      | true, some (.table inner) =>
        (updateAt intoLists change rest inner).map fun inner =>
          Value.assign entries key (.list (items.dropLast ++ [.table inner]))
      | _, _ => none
    | some _ => none

def insertNew (key : Text) (value : Value) (entries : Entries) : Option Entries :=
  if (entries.lookup key).isSome then none else some (entries ++ [(key, value)])

/-- Entries with an empty table added to a list of tables, which is made if it is missing. -/
def appendTable (key : Text) (entries : Entries) : Option Entries :=
  match entries.lookup key with
  | none => some (entries ++ [(key, .list [.table []])])
  | some (.list items) => some (Value.assign entries key (.list (items ++ [.table []])))
  | some _ => none

def isCompound : Value → Bool
  | .list _ | .table _ => true
  | _ => false

structure Document where
  entries : Entries := []
  /-- The path of the table that new entries go to. -/
  header : List Text := []
  /-- Paths that were written as one value; nothing below them may change. -/
  frozen : List (List Text) := []
  /-- Paths of tables that may not be opened any more. -/
  closed : List (List Text) := []
  /-- Paths of tables that may not be opened once the present table is left. -/
  closing : List (List Text) := []

namespace Document

def isFrozen (d : Document) (path : List Text) : Bool := d.frozen.any (·.isPrefixOf path)

def leave (d : Document) : Document := { d with closed := d.closed ++ d.closing, closing := [] }

def openTable (d : Document) (path : List Text) : Option Document :=
  if d.closed.contains path || d.isFrozen path then none
  else (updateAt true some path d.entries).map fun entries =>
    { d with entries := entries, header := path, closed := path :: d.closed }

/-- The document with a new item of the list of tables at a path opened. What was said about the paths
below the previous item is forgotten. -/
def openItem (d : Document) (path : List Text) : Option Document :=
  if d.isFrozen path then none
  else match path.getLast? with
    | none => none
    | some key =>
      let elsewhere := fun p : List Text => !path.isPrefixOf p
      (updateAt true (appendTable key) path.dropLast d.entries).map fun entries =>
        { d with
          entries := entries, header := path, frozen := d.frozen.filter elsewhere,
          closed := path :: d.closed.filter elsewhere }

/-- The paths of the tables that a key with several parts goes through. -/
def passed (header : List Text) (key : List Text) : List (List Text) :=
  (List.range (key.length - 1)).map fun i => header ++ key.take (i + 1)

def insert (d : Document) (key : List Text) (value : Value) : Option Document :=
  let tables := passed d.header key
  match key.getLast? with
  | none => none
  | some last =>
    let parent := d.header ++ key.dropLast
    if tables.any d.closed.contains || d.isFrozen parent then none
    else (updateAt true (insertNew last value) parent d.entries).map fun entries =>
      { d with
        entries := entries, closing := d.closing ++ tables,
        frozen := if isCompound value then (d.header ++ key) :: d.frozen else d.frozen }

end Document

/-- The entries of a table that is written as one value, and the paths that are frozen in it. -/
structure InlineTable where
  entries : Entries := []
  frozen : List (List Text) := []

def InlineTable.insert (table : InlineTable) (key : List Text) (value : Value) :
    Option InlineTable :=
  match key.getLast? with
  | none => none
  | some last =>
    if table.frozen.any (·.isPrefixOf key) then none
    else (updateAt false (insertNew last value) key.dropLast table.entries).map fun entries =>
      ⟨entries, if isCompound value then key :: table.frozen else table.frozen⟩

end ImportDepth.Toml
