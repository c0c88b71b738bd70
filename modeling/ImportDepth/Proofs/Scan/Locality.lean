import ImportDepth.Proofs.FileSystem.Update
import ImportDepth.Proofs.Scan.Stability

/-! Nested ignore files are local. All of them are asked about every path that a nested scan meets, but the
rules of one directory say nothing about paths that are not below it, component by component. So two scans
around a change of one ignore file agree on all files outside the directory that holds it. -/
namespace ImportDepth.Scan

open FileSystem (DifferAt)

variable {fs fs' : FileSystem} {root real directory : Path} {s : Selection} {parts d r : List Text}
  {entries : List (Text × Entry)} {files others : List (List Text)} {m m' : Option Ignore.Matcher}

/-- A nested scan leaves a path alone exactly if the rules of each ignore file do. -/
theorem ignoredBy_nested_eq_false_iff {listed : List (List Text)} (built : matcher? fs root true = .ok m)
    (asked : ignoreFiles fs root = .ok listed) : ignoredBy m root r = .ok false ↔
      ∀ p ∈ listed, ∃ rules, rulesAt fs (root ++ p) = .ok rules ∧
        (rules.ignores (root ++ r) = .ok false ∨ rules.ignores (root ++ r) = .error .outside) := by
  obtain ⟨list, read, answers⟩ := ignoredBy_nested built asked
  rw [answers]
  constructor
  · intro left p member
    obtain ⟨rules, among, made⟩ := mem_of_mapM_ok read member
    exact ⟨rules, made, Ignore.Matcher.anyIgnores_eq_ok_false left among⟩
  · intro silent
    apply Ignore.Matcher.anyIgnores_of_silent
    intro rules among
    obtain ⟨p, member, made⟩ := exists_of_mem_mapM_ok read among
    obtain ⟨_, same, left⟩ := silent p member
    cases made.symm.trans same
    exact left

/-- What a scan leaves alone outside a directory, a scan with another ignore file there leaves alone too. -/
theorem unignored_of_outside (differ : DifferAt (directory ++ [ignoreFileName]) fs fs')
    (found : fs.find root = .ok ⟨real, .directory entries⟩) (built : matcher? fs root true = .ok m)
    (built' : matcher? fs' root true = .ok m') (proper : ∀ name ∈ r, Entry.isName name = true)
    (outside : ¬ directory <+: real ++ r) (left : ignoredBy m root r = .ok false) :
    ignoredBy m' root r = .ok false := by
  obtain ⟨entries', found'⟩ := differ.find_directory found
  obtain ⟨listed, asked, members, _⟩ := ignoreFiles_exact found
  obtain ⟨listed', asked', members', _⟩ := ignoreFiles_exact found'
  obtain ⟨list', read', _⟩ := ignoredBy_nested built' asked'
  rw [ignoredBy_nested_eq_false_iff built asked] at left
  rw [ignoredBy_nested_eq_false_iff built' asked']
  intro p member'
  obtain ⟨⟨⟨content, below'⟩, kept⟩, last⟩ := (members' p).mp member'
  by_cases changed : real ++ p = directory ++ [ignoreFileName]
  · -- These are the rules of the directory itself, and the path is not below it.
    obtain ⟨d, rfl⟩ := List.getLast?_eq_some_iff.mp last
    rw [← List.append_assoc] at changed
    obtain ⟨rfl, _⟩ := List.append_inj' changed rfl
    obtain ⟨rules, _, made⟩ := mem_of_mapM_ok read' member'
    have properFile := ((FileSystem.regular_iff found').mpr ⟨content, below'⟩).1
    refine ⟨rules, made, Ignore.Rules.ignores_outside (fun name inside => ?_) proper
      (directory_of_rulesAt_append made) ?_⟩
    · exact properFile name (List.mem_append_left _ inside)
    · rwa [List.prefix_append_right_inj] at outside
  · have below := differ.symm.get?_file changed below'
    obtain ⟨rules, made, silent⟩ := left p ((members p).mpr ⟨⟨⟨content, below⟩, kept⟩, last⟩)
    rw [rulesAt, read?_below_eq differ found below changed, ← rulesAt] at made
    exact ⟨rules, made, silent⟩

theorem mem_of_outside (differ : DifferAt (directory ++ [ignoreFileName]) fs fs')
    (found : fs.find root = .ok ⟨real, .directory entries⟩)
    (scanned : sourceFiles fs root s true = .ok files)
    (scanned' : sourceFiles fs' root s true = .ok others)
    (outside : ¬ directory <+: real ++ parts) (member : parts ∈ files) : parts ∈ others := by
  obtain ⟨entries', found'⟩ := differ.find_directory found
  obtain ⟨m, _, _, built, _⟩ := sourceFiles_eq_ok.mp scanned
  obtain ⟨m', _, _, built', _⟩ := sourceFiles_eq_ok.mp scanned'
  have source := (mem_sourceFiles_iff found built scanned).mp member
  obtain ⟨content, below⟩ := source.regular found
  have other : real ++ parts ≠ directory ++ [ignoreFileName] := by
    intro same
    exact outside ⟨[ignoreFileName], same.symm⟩
  have moved := source.of_regular found' ⟨content, differ.get?_file other below⟩
  apply (mem_sourceFiles_iff found' built' scanned').mpr
  apply moved.iff_unignored.mpr
  intro r within nonempty
  refine unignored_of_outside differ found built built' ?_ ?_ (source.unignored r within nonempty)
  · exact fun name inside => source.proper name (within.subset inside)
  · intro above
    exact outside (above.trans ((List.prefix_append_right_inj real).mpr within))

/-- Nested ignore files are local. If two file systems differ in the ignore file of one directory, its
presence or its content, then two nested scans of a root that come to their end return the same files
outside this directory, in the same order. A file is outside if its real path does not go through the
directory; names that only begin like that of the directory do not count. -/
theorem nested_outside_eq (differ : DifferAt (directory ++ [ignoreFileName]) fs fs')
    (located : fs.resolve? root = some real)
    (scanned : sourceFiles fs root s true = .ok files)
    (scanned' : sourceFiles fs' root s true = .ok others) :
    files.filter (fun parts => ¬ directory <+: real ++ parts) =
      others.filter (fun parts => ¬ directory <+: real ++ parts) := by
  cases known : fs.isDirectory root with
  | false =>
    have missing : fs'.isDirectory root = false := by rw [← differ.isDirectory_eq, known]
    rw [sourceFiles_of_no_directory known] at scanned
    rw [sourceFiles_of_no_directory missing] at scanned'
    cases scanned
    cases scanned'
    rfl
  | true =>
    obtain ⟨place, entries, found⟩ := FileSystem.isDirectory_iff.mp known
    obtain ⟨entries', found'⟩ := differ.find_directory found
    cases located.symm.trans (FileSystem.resolve?_of_find found (by simp))
    refine eq_of_increasing ((increasing_sourceFiles found scanned).filter _)
      ((increasing_sourceFiles found' scanned').filter _) fun parts => ?_
    simp only [List.mem_filter, decide_eq_true_eq]
    constructor
    · rintro ⟨member, outside⟩
      exact ⟨mem_of_outside differ found scanned scanned' outside member, outside⟩
    · rintro ⟨member, outside⟩
      exact ⟨mem_of_outside differ.symm found' scanned' scanned outside member, outside⟩

def siblings : FileSystem where
  root := .directory [("work", .directory [("lib", .directory [("a.js", .file [])]),
    ("lib2", .directory [("a.js", .file [])])])]

def siblingsRuled : FileSystem where
  root := .directory [("work", .directory [
    ("lib", .directory [("a.js", .file []), (".gitignore", .file (Utf8.encode "a.js"))]),
    ("lib2", .directory [("a.js", .file [])])])]

theorem nested_outside_eq_siblings :
    siblings.put ["work", "lib", ".gitignore"] (.file (Utf8.encode "a.js")) rfl = .ok siblingsRuled ∧
    siblings.resolve? ["work"] = some (["work"] : Path) ∧
    sourceFiles siblings ["work"] {} true = .ok [["lib", "a.js"], ["lib2", "a.js"]] ∧
    sourceFiles siblingsRuled ["work"] {} true = .ok [["lib2", "a.js"]] ∧
    ([["lib", "a.js"], ["lib2", "a.js"]] : List (List Text)).filter
        (fun parts => ¬ (["work", "lib"] : Path) <+: "work" :: parts) =
      ([["lib2", "a.js"]] : List (List Text)).filter
        fun parts => ¬ (["work", "lib"] : Path) <+: "work" :: parts := by
  have done : siblings.put ["work", "lib", ".gitignore"] (.file (Utf8.encode "a.js")) rfl =
      .ok siblingsRuled := rfl
  have located : siblings.resolve? ["work"] = some (["work"] : Path) := by decide +kernel
  have free : sourceFiles siblings ["work"] {} true = .ok [["lib", "a.js"], ["lib2", "a.js"]] := by
    have none' : ignoreFiles siblings ["work"] = .ok [] := by decide +kernel
    have built : matcher? siblings ["work"] true = .ok none := by
      rw [matcher?, if_pos rfl, none']
      rfl
    apply sourceFiles_eq_ok.mpr
    refine ⟨none, [["lib", "a.js"], ["lib2", "a.js"]], [["lib", "a.js"], ["lib2", "a.js"]], built,
      by decide +kernel, by decide +kernel, ?_⟩
    exact (List.mergeSort_of_pairwise (by decide)).symm
  have ruled : sourceFiles siblingsRuled ["work"] {} true = .ok [["lib2", "a.js"]] := by decide +kernel
  have within : siblings.get? ["work", "lib"] = some (.directory [("a.js", .file [])]) := rfl
  have differ : DifferAt ["work", "lib", ".gitignore"] siblings siblingsRuled :=
    FileSystem.differAt_put within (fun e found => by cases found) done
  exact ⟨done, located, free, ruled, nested_outside_eq differ located free ruled⟩

end ImportDepth.Scan
