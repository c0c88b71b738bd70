import ImportDepth.Number.Shortest
import ImportDepth.Text.Basic

/-! Structured data as JSON and TOML documents hold it. -/
namespace ImportDepth

inductive Value where
  | null
  | bool (b : Bool)
  | int (n : Int)
  | float (x : Binary64)
  | text (t : Text)
  /-- A date, a time of day or both, as it is written. -/
  | moment (written : Text)
  | list (items : List Value)
  /-- Entries in the order in which their keys first appear; no key occurs twice. -/
  | table (entries : List (Text × Value))

namespace Value

instance : Inhabited Value := ⟨null⟩

/-- Entries after one more assignment. A key that is already there keeps its place. -/
def assign (entries : List (Text × Value)) (key : Text) (value : Value) : List (Text × Value) :=
  match entries with
  | [] => [(key, value)]
  | (k, v) :: rest => if k = key then (k, value) :: rest else (k, v) :: assign rest key value

end Value
end ImportDepth
