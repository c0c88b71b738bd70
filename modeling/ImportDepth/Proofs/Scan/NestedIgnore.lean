import ImportDepth.Proofs.Scan.Discovery

/-! Scans that ask the ignore files of all directories, compared with scans that ask that of the root alone.
A regular ignore file of the root counts in both. One that is a link counts only in the plain scan, and then
a nested scan may return files that the plain one does not. -/
namespace ImportDepth.Scan

variable {fs : FileSystem} {root real : Path} {ignored ignored' : Ignored} {s : Selection}
  {p : List Text} {entries : List (Text × Entry)} {files more : List (List Text)}
  {m : Option Ignore.Matcher} {rules : Ignore.Rules}

/-- A source file under some ignore files is one under others exactly if these leave it alone too. -/
theorem IsSource.iff_unignored (source : IsSource fs root ignored s p) :
    IsSource fs root ignored' s p ↔ ∀ r, r <+: p → r ≠ [] → ignored' r = .ok false :=
  ⟨fun other => other.unignored, fun unignored => { source with unignored := unignored }⟩

theorem matcher?_false_of_isFile (file : fs.isFile (root ++ [ignoreFileName]) = true)
    (built : matcher? fs root false = .ok m) :
    ∃ rules, rulesAt fs (root ++ [ignoreFileName]) = .ok rules ∧ m = some (.single rules) := by
  rw [matcher?, if_neg (by simp), if_pos file] at built
  obtain ⟨rules, read, same⟩ := bind_ok_iff.mp built
  exact ⟨rules, read, (Except.ok.inj same).symm⟩

theorem matcher?_false_of_not_isFile (file : fs.isFile (root ++ [ignoreFileName]) = false)
    (built : matcher? fs root false = .ok m) : m = none := by
  rw [matcher?, if_neg (by simp), if_neg (by simp [file])] at built
  exact (Except.ok.inj built).symm

/-- The rules of a regular ignore file of the root are among those that a nested scan asks. -/
theorem matcher?_true_of_regular (found : fs.find root = .ok ⟨real, .directory entries⟩)
    (file : fs.isFile (root ++ [ignoreFileName]) = true)
    (regular : fs.isLink (root ++ [ignoreFileName]) = false)
    (built : matcher? fs root true = .ok m) :
    ∃ list, m = some (.several list) ∧
      ∃ rules ∈ list, rulesAt fs (root ++ [ignoreFileName]) = .ok rules := by
  have proper : ∀ name ∈ [ignoreFileName], Entry.isName name = true := by decide
  have unlinked : ∀ r, r <+: [ignoreFileName] → r ≠ [] → fs.isLink (root ++ r) = false := by
    intro r within nonempty
    rw [within.eq_of_length_le (List.length_pos_iff.mpr nonempty)]
    exact regular
  rw [matcher?, if_pos rfl] at built
  obtain ⟨listed, asked, built⟩ := bind_ok_iff.mp built
  obtain ⟨_, same, members, _⟩ := ignoreFiles_exact found
  cases asked.symm.trans same
  have member : [ignoreFileName] ∈ listed := (members _).mpr
    ⟨⟨(FileSystem.regular_iff found).mp ⟨proper, file, unlinked⟩, kept_singleton⟩, rfl⟩
  split at built
  · cases member
  · obtain ⟨list, read, same⟩ := bind_ok_iff.mp built
    obtain ⟨rules, inside, first⟩ := mem_of_mapM_ok read member
    exact ⟨list, (Except.ok.inj same).symm, rules, inside, first⟩

theorem directory_of_rulesAt {name : Text} (read : rulesAt fs (root ++ [name]) = .ok rules) :
    rules.directory = root := by
  unfold rulesAt Ignore.Rules.ofBytes at read
  split at read
  · cases read
  · obtain ⟨list, _, same⟩ := bind_ok_iff.mp read
    rw [← Except.ok.inj same]
    simp

/-- Nested scans return no more than plain ones, with one exception. A file of the nested scan is missing
from the plain one exactly if the ignore file of the root is a link to a file and its rules do not leave the
file and the directories above it alone. -/
theorem mem_plain_iff_of_mem_nested (wide : sourceFiles fs root s true = .ok more)
    (plain : sourceFiles fs root s false = .ok files) (member : p ∈ more) :
    p ∈ files ↔
      (fs.isFile (root ++ [ignoreFileName]) = true → fs.isLink (root ++ [ignoreFileName]) = true →
        ∃ rules, rulesAt fs (root ++ [ignoreFileName]) = .ok rules ∧
          ∀ r, r <+: p → r ≠ [] → rules.ignores (root ++ r) = .ok false) := by
  obtain ⟨real, entries, found⟩ := find_of_mem_sourceFiles wide member
  obtain ⟨all, _, _, builtAll, _⟩ := sourceFiles_eq_ok.mp wide
  obtain ⟨one, _, _, builtOne, _⟩ := sourceFiles_eq_ok.mp plain
  have source := (mem_sourceFiles_iff found builtAll wide).mp member
  rw [mem_sourceFiles_iff found builtOne plain, source.iff_unignored]
  cases file : fs.isFile (root ++ [ignoreFileName]) with
  | false =>
    rw [matcher?_false_of_not_isFile file builtOne]
    simp [ignoredBy]
  | true =>
    obtain ⟨rules, read, rfl⟩ := matcher?_false_of_isFile file builtOne
    cases linked : fs.isLink (root ++ [ignoreFileName]) with
    | true => simp [ignoredBy, Ignore.Matcher.ignores, read]
    | false =>
      refine ⟨fun _ _ => by simp, fun _ r within nonempty => ?_⟩
      -- The rules of the root are asked in the nested scan too, and below the root they are not elsewhere.
      obtain ⟨list, rfl, other, inside, same⟩ := matcher?_true_of_regular found file linked builtAll
      cases read.symm.trans same
      have proper : ∀ name ∈ r, Entry.isName name = true := fun name among =>
        source.proper name (within.subset among)
      rcases Ignore.Matcher.anyIgnores_eq_ok_false (source.unignored r within nonempty) inside with
        left | outside
      · exact left
      · rw [← directory_of_rulesAt read] at outside
        exact absurd (Ignore.Rules.ignores_below_error proper outside).1 (by simp)

def linkedIgnore : FileSystem where
  root := .directory [("conf", .file (Utf8.encode "a.js\n")),
    ("work", .directory [(".gitignore", .link "../conf"), ("a.js", .file [])])]

theorem mem_plain_iff_of_mem_nested_linked :
    sourceFiles linkedIgnore ["work"] {} true = .ok [["a.js"]] ∧
      sourceFiles linkedIgnore ["work"] {} false = .ok [] ∧
      ¬ (linkedIgnore.isFile ["work", ".gitignore"] = true →
        linkedIgnore.isLink ["work", ".gitignore"] = true →
        ∃ rules, rulesAt linkedIgnore ["work", ".gitignore"] = .ok rules ∧
          ∀ r : List Text, r <+: ["a.js"] → r ≠ [] → rules.ignores ("work" :: r) = .ok false) := by
  have wide : sourceFiles linkedIgnore ["work"] {} true = .ok [["a.js"]] := by decide +kernel
  have plain : sourceFiles linkedIgnore ["work"] {} false = .ok [] := by decide +kernel
  refine ⟨wide, plain, fun kept => ?_⟩
  have member := (mem_plain_iff_of_mem_nested wide plain (by simp)).mpr kept
  simp at member

end ImportDepth.Scan
