import ImportDepth.Proofs.Specifier.Segments

/-! How far a specifier really climbs. Its path is followed segment by segment, and a parent that has a name
before it only takes that name back. The textual count is never below the real climb, unless the last segment is
a parent, which no slash follows; so nothing that climbs too far goes unreported but in this corner. -/
namespace ImportDepth.Specifier

/-- Where a path leads: how far above the directory of its start, and by which names down from there, the last
one first. -/
structure Place where
  above : Nat := 0
  below : List Text := []

/-- What one segment does. A parent takes a name back if there is one. -/
def Place.enter (place : Place) (segment : Text) : Place :=
  if segment = [] ∨ segment = ("." : Text) then place
  else if segment = (".." : Text) then
    match place.below with
    | [] => { place with above := place.above + 1 }
    | _ :: below => { place with below := below }
  else { place with below := segment :: place.below }

/-- The number of directories that the normalised path of a specifier ascends. -/
def climb (specifier : Text) : Nat := ((segments specifier).foldl Place.enter {}).above

theorem above_enter_le (place : Place) (segment : Text) :
    (place.enter segment).above ≤ place.above + if segment = (".." : Text) then 1 else 0 := by
  unfold Place.enter
  split
  · exact Nat.le_add_right _ _
  · split
    · split
      · exact Nat.le_refl _
      · exact Nat.le_add_right _ _
    · exact Nat.le_refl _

theorem above_foldl_le (path : List Text) (place : Place) :
    (path.foldl Place.enter place).above ≤ place.above + path.count (".." : Text) := by
  induction path generalizing place with
  | nil => exact Nat.le_refl _
  | cons segment path ih =>
    have further := ih (place.enter segment)
    have step := above_enter_le place segment
    rw [List.foldl_cons, List.count_cons]
    simp only [beq_iff_eq]
    omega

theorem climb_le_count (specifier : Text) : climb specifier ≤ (segments specifier).count (".." : Text) := by
  have bound := above_foldl_le (segments specifier) {}
  rwa [Nat.zero_add] at bound

theorem count_dropLast_le (specifier : Text) :
    (segments specifier).dropLast.count (".." : Text) ≤ parentSegments specifier := by
  rw [parentSegments_eq_countP, List.count]
  apply List.countP_mono_left
  intro segment _ parent
  rw [beq_iff_eq.mp parent]
  exact List.isSuffixOf_iff_suffix.mpr (List.suffix_refl _)

/-- Only the last segment can be a parent that the count leaves out. -/
theorem climb_le (specifier : Text) :
    climb specifier ≤
      parentSegments specifier + if (segments specifier).getLast? = some (".." : Text) then 1 else 0 := by
  have nonempty : segments specifier ≠ [] := Text.splitOn_ne_nil _ specifier
  have parted := List.dropLast_concat_getLast nonempty
  have all := climb_le_count specifier
  have front := count_dropLast_le specifier
  rw [← parted, List.count_append, List.count_singleton] at all
  rw [List.getLast?_eq_some_getLast nonempty]
  simp only [Option.some.injEq, beq_iff_eq] at all ⊢
  omega

/-- The count bounds the climb, up to one for a parent at the end. Hence a relative specifier that does not end
with a parent and climbs further than a limit is reported, with a depth that is not below its climb. -/
theorem climb_bounded (specifier : Text) :
    climb specifier ≤ parentSegments specifier + 1 ∧
      ((segments specifier).getLast? ≠ some (".." : Text) → climb specifier ≤ parentSegments specifier) ∧
      ∀ limit : Int, isRelative specifier = true → (segments specifier).getLast? ≠ some (".." : Text) →
        limit < climb specifier →
        ∃ violation, classify specifier limit = some violation ∧ climb specifier ≤ violation.depth := by
  have bound := climb_le specifier
  have counted : (segments specifier).getLast? ≠ some (".." : Text) →
      climb specifier ≤ parentSegments specifier := by
    intro other
    rwa [if_neg other] at bound
  refine ⟨?_, counted, ?_⟩
  · split at bound <;> omega
  · intro limit relative other exceeded
    have deep := counted other
    exact ⟨_, if_pos ⟨relative, by omega⟩, deep⟩

-- A parent at the end climbs without being counted.
example : climb "./.." = 1 ∧ parentSegments "./.." = 0 := by decide

theorem climb_bounded_through_name :
    isRelative "./a/../..//../b" = true ∧ (segments "./a/../..//../b").getLast? ≠ some (".." : Text) ∧
      climb "./a/../..//../b" = 2 ∧
      ∃ violation, classify "./a/../..//../b" 1 = some violation ∧ 2 ≤ violation.depth := by
  have relative : isRelative "./a/../..//../b" = true := by decide
  have other : (segments "./a/../..//../b").getLast? ≠ some (".." : Text) := by decide
  have climbs : climb "./a/../..//../b" = 2 := by decide
  obtain ⟨_, _, reported⟩ := climb_bounded "./a/../..//../b"
  have found := reported 1 relative other (by rw [climbs]; decide)
  rw [climbs] at found
  exact ⟨relative, other, climbs, found⟩

end ImportDepth.Specifier
