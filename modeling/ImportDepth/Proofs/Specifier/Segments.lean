import ImportDepth.Proofs.Specifier
import ImportDepth.Proofs.Text

/-! The segments of a specifier. `../` stands exactly where a segment that is not the last ends in two dots, so
counting it is counting these segments. -/
namespace ImportDepth.Specifier

/-- The parts between slashes. There is always one. -/
def segments (specifier : Text) : List Text := specifier.splitOn '/'

variable {front specifier : Text}

theorem parent_eq : (".." : Text) = [CodePoint.ofChar '.', CodePoint.ofChar '.'] := by decide

theorem occurrences_cons_eq (pattern : Text) (c : CodePoint) (rest : Text) :
    occurrences pattern (c :: rest) = occurrences pattern rest + if pattern <+: c :: rest then 1 else 0 := by
  simp only [occurrences_cons, List.isPrefixOf_iff_prefix]

theorem segments_append (free : CodePoint.ofChar '/' ∉ front) (back : Text) :
    segments (front ++ ('/' : CodePoint) :: back) = front :: segments back := by
  rw [segments, Text.splitOn_append, Text.splitOn_of_not_mem free]
  rfl

/-- A climb at the beginning is a first segment of two dots. -/
theorem climb_prefix_iff (free : CodePoint.ofChar '/' ∉ front) (back : Text) :
    ("../" : Text) <+: front ++ ('/' : CodePoint) :: back ↔ (".." : Text) = front := by
  rw [climb_eq, parent_eq]
  match front, free with
  | [], _ => simp [dot_ne_slash]
  | [a], _ => simp [dot_ne_slash]
  | [a, b], _ => simp
  | a :: b :: c :: rest, free =>
    constructor
    · intro stands
      simp only [List.cons_append, List.cons_prefix_cons] at stands
      obtain ⟨_, _, rfl, _⟩ := stands
      simp at free
    · intro short
      cases short

theorem occurrences_append (free : CodePoint.ofChar '/' ∉ front) (back : Text) :
    occurrences "../" (front ++ ('/' : CodePoint) :: back) =
      occurrences "../" back + if (".." : Text) <:+ front then 1 else 0 := by
  induction front with
  | nil =>
    have elsewhere : ¬ ("../" : Text) <+: ('/' : CodePoint) :: back := by
      rw [← List.nil_append (_ :: back), climb_prefix_iff free]
      decide
    rw [List.nil_append, occurrences_cons_eq, if_neg elsewhere]
    rfl
  | cons a front ih =>
    have further : CodePoint.ofChar '/' ∉ front := fun inside => free (List.mem_cons_of_mem a inside)
    have stands := climb_prefix_iff free back
    rw [List.cons_append] at stands ⊢
    rw [occurrences_cons_eq, ih further]
    simp only [stands, List.suffix_cons_iff]
    by_cases whole : (".." : Text) = a :: front
    · -- The whole segment is two dots, so no further part of it is.
      have short : ¬ a :: front <:+ front := by
        intro behind
        have longer := behind.length_le
        rw [List.length_cons] at longer
        omega
      simp [whole, short]
    · simp [whole]

theorem occurrences_of_no_slash (free : CodePoint.ofChar '/' ∉ specifier) :
    occurrences "../" specifier = 0 := by
  induction specifier with
  | nil => rfl
  | cons c rest ih =>
    have elsewhere : ¬ ("../" : Text) <+: c :: rest := by
      intro stands
      exact free (stands.subset (by decide))
    rw [occurrences_cons_eq, if_neg elsewhere, Nat.add_zero,
      ih fun inside => free (List.mem_cons_of_mem c inside)]

/-- The count is the number of segments before the last one that end in two dots. -/
theorem parentSegments_eq_countP (specifier : Text) :
    parentSegments specifier = (segments specifier).dropLast.countP ((".." : Text).isSuffixOf ·) := by
  rw [parentSegments_eq_occurrences]
  induction length : specifier.length using Nat.strongRecOn generalizing specifier with
  | _ _ ih =>
    by_cases parted : CodePoint.ofChar '/' ∈ specifier
    · obtain ⟨front, back, rfl, free⟩ := List.eq_append_cons_of_mem parted
      have shorter : back.length < (front ++ CodePoint.ofChar '/' :: back).length := by
        simp only [List.length_append, List.length_cons]
        omega
      have rest : segments back ≠ [] := Text.splitOn_ne_nil _ back
      rw [occurrences_append free, segments_append free, List.dropLast_cons_of_ne_nil rest, List.countP_cons,
        ih _ (length ▸ shorter) back rfl]
      simp only [List.isSuffixOf_iff_suffix]
    · rw [occurrences_of_no_slash parted, segments, Text.splitOn_of_not_mem parted]
      rfl

/-- A pattern stands at a position if the part that begins there and is as long as the pattern is the pattern. -/
theorem occurrences_eq_countP_take (pattern t : Text) :
    occurrences pattern t =
      (List.range t.length).countP fun i => (t.drop i).take pattern.length = pattern := by
  rw [occurrences]
  congr 1
  funext i
  rw [Bool.eq_iff_iff, List.isPrefixOf_iff_prefix, List.prefix_iff_eq_take, decide_eq_true_eq]
  exact eq_comm

/-- A slash keeps what stands before it apart from what stands behind it. -/
theorem parentSegments_append_slash (front back : Text) :
    parentSegments (front ++ ("/" : Text) ++ back) =
      parentSegments (front ++ ("/" : Text)) + parentSegments back := by
  have parted (behind : Text) : segments (front ++ ("/" : Text) ++ behind) = segments front ++ segments behind := by
    rw [List.append_assoc]
    exact Text.splitOn_append front behind
  have closed : segments (front ++ ("/" : Text)) = segments front ++ [[]] := by
    have whole := parted []
    rw [List.append_nil] at whole
    exact whole
  have rest : segments back ≠ [] := Text.splitOn_ne_nil _ back
  rw [parentSegments_eq_countP, parentSegments_eq_countP, parentSegments_eq_countP, parted, closed,
    List.dropLast_append_of_ne_nil rest, List.dropLast_concat, List.countP_append]

/-- No two of the places that are counted overlap. -/
theorem three_mul_parentSegments_le (specifier : Text) : 3 * parentSegments specifier ≤ specifier.length := by
  fun_induction parentSegments specifier with
  | case1 a b c rest step ih =>
    simp only [List.length_cons]
    omega
  | case2 a b c rest step ih =>
    simp only [List.length_cons] at ih ⊢
    omega
  | case3 t short => exact Nat.zero_le _

/-- The count is exact. The scan that skips what it found, the positions at which `../` stands, and the segments
before the last one that end in two dots come to the same number; it adds up over the parts before and behind a
slash, and three code points pay for each unit. -/
theorem parentSegments_exact (specifier : Text) :
    parentSegments specifier =
        ((List.range specifier.length).countP fun i => (specifier.drop i).take 3 = ("../" : Text)) ∧
      parentSegments specifier = ((segments specifier).dropLast.countP fun segment =>
        (".." : Text).isSuffixOf segment) ∧
      (∀ back : Text, parentSegments (specifier ++ ("/" : Text) ++ back) =
        parentSegments (specifier ++ ("/" : Text)) + parentSegments back) ∧
      3 * parentSegments specifier ≤ specifier.length := by
  refine ⟨?_, parentSegments_eq_countP specifier, parentSegments_append_slash specifier,
    three_mul_parentSegments_le specifier⟩
  rw [parentSegments_eq_occurrences, occurrences_eq_countP_take]
  rfl

-- Between dots and slashes of no account stands one climb, and the skip over it loses none of what follows.
example : parentSegments "....//../" = 2 ∧ (segments "....//../").length = 4 := by decide

end ImportDepth.Specifier
