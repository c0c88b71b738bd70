import ImportDepth.Specifier

/-! When a specifier is a violation. The scan without overlap counts every place where `../` stands, because
no two of these places overlap. -/
namespace ImportDepth

/-- The number of places of a list at which a pattern stands. -/
def places {α : Type} [BEq α] (pattern list : List α) : Nat :=
  (List.range list.length).countP fun i => pattern.isPrefixOf (list.drop i)

section Places

variable {α : Type} [BEq α]

theorem places_cons (pattern : List α) (a : α) (rest : List α) :
    places pattern (a :: rest) = places pattern rest + if pattern.isPrefixOf (a :: rest) then 1 else 0 := by
  rw [places, List.length_cons, List.range_succ_eq_map, List.countP_cons, List.countP_map]
  rfl

/-- A pattern stands nowhere in front of its first member. -/
theorem places_append_of_not_mem [LawfulBEq α] {first : α} {front : List α} (absent : first ∉ front)
    (pattern back : List α) :
    places (first :: pattern) (front ++ back) = places (first :: pattern) back := by
  induction front with
  | nil => rfl
  | cons a front ih =>
    have different : ¬ (first :: pattern).isPrefixOf (a :: (front ++ back)) := by
      intro stands
      have same := (List.cons_prefix_cons.mp (List.isPrefixOf_iff_prefix.mp stands)).1
      exact absent (List.mem_cons.mpr (.inl same))
    rw [List.cons_append, places_cons, if_neg different, Nat.add_zero]
    exact ih fun inside => absent (List.mem_cons_of_mem a inside)

end Places

namespace Specifier

def occurrences (pattern t : Text) : Nat :=
  (List.range t.length).countP fun i => pattern.isPrefixOf (t.drop i)

theorem occurrences_cons (pattern : Text) (c : CodePoint) (rest : Text) :
    occurrences pattern (c :: rest) =
      occurrences pattern rest + if pattern.isPrefixOf (c :: rest) then 1 else 0 :=
  places_cons pattern c rest

theorem climb_eq : ("../" : Text) =
    [CodePoint.ofChar '.', CodePoint.ofChar '.', CodePoint.ofChar '/'] := by decide

theorem dot_ne_slash : CodePoint.ofChar '.' ≠ CodePoint.ofChar '/' := by decide

theorem parentSegments_eq_occurrences (specifier : Text) :
    parentSegments specifier = occurrences "../" specifier := by
  rw [climb_eq]
  fun_induction parentSegments specifier with
  | case1 a b c rest step ih =>
    obtain ⟨rfl, rfl, rfl⟩ := step
    -- The two places inside an occurrence begin with fewer than two dots.
    simp [occurrences_cons, List.isPrefixOf, dot_ne_slash, ih]
  | case2 a b c rest step ih =>
    rw [occurrences_cons, if_neg, ih, Nat.add_zero]
    simp only [List.isPrefixOf, Bool.and_true, Bool.and_eq_true, beq_iff_eq]
    rintro ⟨first, second, third⟩
    exact step ⟨first.symm, second.symm, third.symm⟩
  | case3 t short =>
    match t, short with
    | [], _ => rfl
    | [a], _ => simp [occurrences]
    | [a, b], _ => simp [occurrences, List.range_succ]
    | a :: b :: c :: rest, short => exact absurd rfl (short a b c rest)

theorem classify_eq_some_iff (specifier : Text) (limit : Nat) (v : Violation) :
    classify specifier limit = some v ↔
      (("." : Text) <+: specifier ∧ limit < occurrences "../" specifier) ∧
        v = ⟨specifier, limit, occurrences "../" specifier⟩ := by
  unfold classify isRelative
  simp only [parentSegments_eq_occurrences, List.isPrefixOf_iff_prefix, Int.ofNat_lt]
  split
  · simp_all [eq_comm]
  · simp_all only [reduceCtorEq, false_and]

end Specifier
end ImportDepth
