import ImportDepth.Proofs.FileSystem.RealPath

/-! What stands below a directory. Paths below it that pass no link can be asked about through the path of
the directory, whatever links lie on that, or looked up in the tree: the answers are the same. -/
namespace ImportDepth.FileSystem

variable {fs : FileSystem} {root real q : Path} {parts : List Text} {d e : Entry}

/-- An entry above another one is no link. -/
theorem plain_of_get?_append {r : List Text} (found : fs.get? q = some d)
    (below : fs.get? (q ++ r) = some e) (plain : ∀ target, e ≠ .link target) :
    ∀ target, d ≠ .link target := by
  rintro target rfl
  rw [get?, Entry.get?_append, ← get?, found, Option.bind_some] at below
  cases r with
  | nil => exact plain target (by simpa [Entry.get?] using below.symm)
  | cons name rest => simp [Entry.get?] at below

theorem get?_of_append {r : List Text} (below : fs.get? (q ++ r) = some e) :
    ∃ d, fs.get? q = some d ∧ d.get? r = some e := by
  rw [get?, Entry.get?_append] at below
  exact Option.bind_eq_some_iff.mp below

theorem find_append (found : fs.find root = .ok ⟨real, d⟩)
    (below : fs.get? (real ++ parts) = some e) (plain : ∀ target, e ≠ .link target) :
    fs.find (root ++ parts) = .ok ⟨real ++ parts, e⟩ := by
  obtain ⟨k, fewer, way, _⟩ := find_eq_ok_iff.mp found
  exact find_eq_ok_iff.mpr ⟨k, fewer, way.append (leads_of_get? below plain), below⟩

/-- Without following it, the last name below a directory leads to what stands under it. -/
theorem findLink_append {name : Text} (found : fs.find root = .ok ⟨real, d⟩)
    (below : fs.get? (real ++ [name]) = some e) :
    fs.findLink (root ++ [name]) = .ok ⟨real ++ [name], e⟩ := by
  obtain ⟨k, fewer, way, _⟩ := find_eq_ok_iff.mp found
  have passed : fs.searchWithin false (linkLimit - k + k + 1) [] (root ++ [name]) =
      fs.searchWithin false (linkLimit - k + 1) real [name] := way.searchWithin (.inr (by simp))
  rw [Nat.sub_add_cancel fewer] at passed
  rw [findLink, passed, searchWithin, search, move_of_get? below]
  cases e <;> simp [Move.onto, search, below]

theorem isLink_append {name : Text} (found : fs.find root = .ok ⟨real, d⟩)
    (below : fs.get? (real ++ [name]) = some e) :
    fs.isLink (root ++ [name]) = true ↔ ∃ target, e = .link target := by
  rw [isLink, findLink_append found below]
  cases e <;> simp

/-- Neither an entry that is no link nor the directories above it are links. -/
theorem isLink_eq_false {r rest : List Text} (found : fs.find root = .ok ⟨real, d⟩)
    (below : fs.get? (real ++ (r ++ rest)) = some e) (plain : ∀ target, e ≠ .link target)
    (nonempty : r ≠ []) : fs.isLink (root ++ r) = false := by
  obtain ⟨front, name, rfl⟩ := (List.eq_nil_or_concat r).resolve_left nonempty
  rw [List.concat_eq_append] at below ⊢
  rw [← List.append_assoc] at below
  obtain ⟨child, reached, _⟩ := get?_of_append below
  have onto := plain_of_get?_append reached below plain
  rw [← List.append_assoc] at reached
  obtain ⟨parent, above, _⟩ := get?_of_append reached
  have start := find_append found above (plain_of_get?_append above reached onto)
  rw [← List.append_assoc, Bool.eq_false_iff]
  intro linked
  obtain ⟨target, same⟩ := (isLink_append start reached).mp linked
  exact onto target same

/-- A path that passes no link below a directory leads to what stands there. -/
theorem get?_of_unlinked (found : fs.find root = .ok ⟨real, d⟩)
    (proper : ∀ name ∈ parts, Entry.isName name = true)
    (unlinked : ∀ r, r <+: parts → r ≠ [] → fs.isLink (root ++ r) = false)
    (reached : fs.find (root ++ parts) = .ok ⟨q, e⟩) :
    q = real ++ parts ∧ fs.get? q = some e := by
  induction parts generalizing root real d with
  | nil =>
    rw [List.append_nil] at reached
    cases found.symm.trans reached
    obtain ⟨_, _, _, entry⟩ := find_eq_ok_iff.mp found
    exact ⟨by simp, entry⟩
  | cons name rest ih =>
    obtain ⟨_, noDot, noDots, _⟩ := Entry.isName_iff.mp (proper name (by simp))
    obtain ⟨_, _, start, _⟩ := find_eq_ok_iff.mp found
    obtain ⟨_, _, way, _⟩ := find_eq_ok_iff.mp reached
    obtain ⟨_, _, mid, first, second, _⟩ := way.split
    obtain ⟨_, rfl⟩ := first.deterministic start
    cases second with
    | step moved onward =>
      rcases move_cases moved with ⟨same, _⟩ | ⟨same, _⟩ | ⟨_, _, child, below, same⟩
      · exact absurd same noDots
      · exact absurd same noDot
      · obtain ⟨rfl, plain⟩ := onto_eq_to.mp same.symm
        have joined : ∀ r : List Text, root ++ [name] ++ r = root ++ name :: r := by simp
        have further := ih (find_append found below plain)
          (fun n member => proper n (.tail _ member))
          (fun r within _ => by
            rw [joined]
            exact unlinked (name :: r) (by simpa using within) (by simp))
          (by rw [joined]; exact reached)
        simpa using further
    | follow moved inner onward =>
      rcases move_cases moved with ⟨_, same⟩ | ⟨_, same⟩ | ⟨_, _, child, below, same⟩
      · cases same
      · cases same
      · have linked := (isLink_append found below).mpr ⟨_, onto_eq_through.mp same.symm⟩
        rw [unlinked [name] (by simp) (by simp)] at linked
        contradiction

/-- Only a directory has anything below it. -/
theorem find_directory_of_append (reached : fs.find (root ++ parts) = .ok ⟨q, e⟩) (nonempty : parts ≠ []) :
    ∃ real entries, fs.find root = .ok ⟨real, .directory entries⟩ := by
  obtain ⟨k, fewer, way, _⟩ := find_eq_ok_iff.mp reached
  obtain ⟨i, j, mid, first, second, rfl⟩ := way.split
  obtain ⟨entries, listed⟩ : ∃ entries, fs.get? mid = some (.directory entries) := by
    cases second with
    | done => exact absurd rfl nonempty
    | step moved _ | follow moved _ _ => exact directory_of_move moved
  exact ⟨mid, entries, find_eq_ok_iff.mpr ⟨i, by omega, first, listed⟩⟩

/-- A regular file below a directory, told by questions about paths and by the tree. -/
theorem regular_iff (found : fs.find root = .ok ⟨real, d⟩) :
    ((∀ name ∈ parts, Entry.isName name = true) ∧ fs.isFile (root ++ parts) = true ∧
      ∀ r, r <+: parts → r ≠ [] → fs.isLink (root ++ r) = false) ↔
      ∃ content, fs.get? (real ++ parts) = some (.file content) := by
  constructor
  · rintro ⟨proper, file, unlinked⟩
    unfold isFile at file
    split at file
    · rename_i q content reached
      obtain ⟨rfl, entry⟩ := get?_of_unlinked found proper unlinked reached
      exact ⟨content, entry⟩
    · contradiction
  · rintro ⟨content, below⟩
    have plain : ∀ target, Entry.file content ≠ .link target := by simp
    refine ⟨?_, ?_, ?_⟩
    · intro name member
      exact (Entry.get?_isWellFormed fs.wellFormed below).1 name (List.mem_append_right _ member)
    · rw [isFile, find_append found below plain]
    · rintro r ⟨rest, rfl⟩ nonempty
      exact isLink_eq_false found below plain nonempty

end ImportDepth.FileSystem
