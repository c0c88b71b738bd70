import ImportDepth.Proofs.FileSystem.Lookup
import ImportDepth.Proofs.Text

/-! Paths of names as texts. No name holds a slash, so a path can be read back from its text, and the order
by code points never puts two different paths at one place. -/
namespace ImportDepth

namespace Path

theorem slash_eq : ("/" : Text) = [CodePoint.ofChar '/'] := by decide

/-- Different paths of names have different texts. -/
theorem relativeText_injective {a b : List Text} (nonempty : a ≠ [] ∧ b ≠ [])
    (properA : ∀ name ∈ a, Entry.isName name = true) (properB : ∀ name ∈ b, Entry.isName name = true)
    (same : relativeText a = relativeText b) : a = b := by
  have joined : ∀ p : List Text, p ≠ [] → relativeText p = Text.join [CodePoint.ofChar '/'] p := by
    intro p nonempty
    cases p with
    | nil => contradiction
    | cons part rest => simp only [relativeText, slash_eq]
  have free : ∀ p : List Text, (∀ name ∈ p, Entry.isName name = true) →
      ∀ name ∈ p, CodePoint.ofChar '/' ∉ name :=
    fun p proper name member => (Entry.isName_iff.mp (proper name member)).2.2.2
  rw [joined a nonempty.1, joined b nonempty.2] at same
  rw [← Text.splitOn_join nonempty.1 (free a properA), same,
    Text.splitOn_join nonempty.2 (free b properB)]

/-- Nothing is removed from a path of names. -/
theorem normalize_append_names {p names : List Text}
    (proper : ∀ name ∈ names, Entry.isName name = true) :
    normalize (p ++ names) = normalize p ++ names := by
  rw [normalize, normalize, List.foldl_append]
  generalize p.foldl normalizeStep [] = reversed
  induction names generalizing reversed with
  | nil => simp
  | cons name rest ih =>
    obtain ⟨_, _, noDots, _⟩ := Entry.isName_iff.mp (proper name (by simp))
    rw [List.foldl_cons, ih (fun n member => proper n (.tail _ member)), normalizeStep, if_neg noDots]
    simp

theorem relativeTo?_append (directory parts : List Text) :
    relativeTo? (directory ++ parts) directory = some parts := by
  induction directory with
  | nil => cases parts <;> rfl
  | cons part rest ih => simpa [relativeTo?] using ih

theorem eq_append_of_relativeTo? {p directory parts : List Text}
    (below : relativeTo? p directory = some parts) : p = directory ++ parts := by
  fun_induction relativeTo? p directory with
  | case1 p => simpa using below
  | case2 a rest directory ih => rw [ih below, List.cons_append]
  | case3 => cases below
  | case4 => cases below

theorem suffix_append {directory parts : List Text} (nonempty : parts ≠ []) :
    suffix (directory ++ parts) = suffix parts := by
  obtain ⟨last, same⟩ := List.getLast?_isSome.mpr nonempty |> Option.isSome_iff_exists.mp
  simp [suffix, List.getLast?_append, same]

end Path
end ImportDepth
