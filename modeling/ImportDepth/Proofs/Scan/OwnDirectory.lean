import ImportDepth.Proofs.Scan.NestedIgnore
import Mathlib.Data.List.Infix

/-! Why a source file is missing from a nested scan. A scan that comes to its end has asked the ignore files
about the file, or about a directory above it that it left out. The answer comes from the ignore file of a
directory above the file. It was asked about a path below this directory, or about the directory itself: the
walk asks about every directory that it meets, and there the ignore file sees the path `.`. -/
namespace ImportDepth.Scan

variable {fs : FileSystem} {root real : Path} {ignored : Ignored} {s : Selection} {nested : Bool}
  {here parts d q : List Text} {name : Text} {e : Entry} {entries : List (Text × Entry)} {content : Bytes}
  {files listed : List (List Text)} {m : Option Ignore.Matcher}

/-- The regular ignore file of a directory below a root ignores a path below that root. -/
structure IgnoredFrom (fs : FileSystem) (root : Path) (d q : List Text) : Prop where
  file : fs.isFile (root ++ (d ++ [ignoreFileName])) = true
  unlinked : fs.isLink (root ++ (d ++ [ignoreFileName])) = false
  ignored : ∃ rules, rulesAt fs (root ++ (d ++ [ignoreFileName])) = .ok rules ∧
    rules.ignores (root ++ q) = .ok true

section Answers

/-- A walk that comes to its end has an answer for each entry, and has entered those that it keeps. -/
theorem walkEntries_of_mem (walked : walkEntries ignored here entries = .ok files)
    (member : (name, e) ∈ entries) :
    ∃ pruned, isPruned ignored here name e = .ok pruned ∧
      (pruned = false → ∃ inner, walk ignored (here ++ [name]) e = .ok inner) := by
  induction entries generalizing files with
  | nil => cases member
  | cons entry rest ih =>
    obtain ⟨n, first⟩ := entry
    obtain ⟨pruned, inner, further, asked, entered, onward, _⟩ := walkEntries_cons_eq_ok.mp walked
    rcases List.mem_cons.mp member with same | member
    · cases same
      refine ⟨pruned, asked, ?_⟩
      rintro rfl
      exact ⟨inner, entered⟩
    · exact ih onward member

/-- What is pruned although it is not skipped is ignored. -/
theorem ignored_of_isPruned (pruned : isPruned ignored here name e = .ok true)
    (unskipped : isSkipped name = false) : ignored (here ++ [name]) = .ok true := by
  unfold isPruned at pruned
  rw [unskipped] at pruned
  split at pruned
  · cases pruned
  · exact pruned

/-- A walk that comes to its end keeps a file, or some directory on the way to it is ignored. -/
theorem walk_answers (walked : walk ignored here e = .ok files)
    (found : e.get? parts = some (.file content))
    (unskipped : ∀ name ∈ parts.dropLast, isSkipped name = false) :
    Kept ignored here parts ∨ ∃ r, r <+: parts ∧ r ≠ [] ∧ ignored (here ++ r) = .ok true := by
  induction parts generalizing here e files with
  | nil => exact .inl kept_nil
  | cons name rest ih =>
    cases e with
    | file _ | link _ => simp [Entry.get?] at found
    | directory entries =>
      rw [Entry.get?] at found
      obtain ⟨child, looked, inside⟩ := Option.bind_eq_some_iff.mp found
      rw [walk] at walked
      obtain ⟨pruned, asked, entered⟩ := walkEntries_of_mem walked (Entry.mem_of_lookup looked)
      cases pruned with
      | false =>
        obtain ⟨inner, onward⟩ := entered rfl
        have further : ∀ n ∈ rest.dropLast, isSkipped n = false := by
          intro n member
          cases rest with
          | nil => cases member
          | cons next rest => exact unskipped n (.tail _ member)
        rcases ih onward inside further with kept | ⟨r, within, _, refused⟩
        · exact .inl ((kept_cons_iff inside).mpr ⟨asked, kept⟩)
        · exact .inr ⟨name :: r, by simpa using within, by simp, by simpa using refused⟩
      | true =>
        -- Only directories are pruned, so the file is further down and the name is not skipped.
        have nonempty : rest ≠ [] := by
          rintro rfl
          cases inside
          simp [isPruned, Entry.isDirectory] at asked
        have visible : isSkipped name = false :=
          unskipped name (by rw [List.dropLast_cons_of_ne_nil nonempty]; simp)
        exact .inr ⟨[name], by simp, by simp, ignored_of_isPruned asked visible⟩

theorem exists_of_anyIgnored (asked : anyIgnored ignored here parts = .ok true) :
    ∃ r, r <+: parts ∧ r ≠ [] ∧ ignored (here ++ r) = .ok true := by
  induction parts generalizing here with
  | nil => cases asked
  | cons part rest ih =>
    obtain ⟨first, answered, onward⟩ := bind_ok_iff.mp asked
    cases first with
    | true => exact ⟨[part], by simp, by simp, answered⟩
    | false =>
      obtain ⟨r, within, _, refused⟩ := ih onward
      exact ⟨part :: r, by simpa using within, by simp, by simpa using refused⟩

theorem keep_answers {α ε : Type} {test : α → Except ε Bool} {a : α} {list kept : List α}
    (done : keep test list = .ok kept) (member : a ∈ list) : ∃ b, test a = .ok b := by
  induction list generalizing kept with
  | nil => cases member
  | cons first rest ih =>
    obtain ⟨passed, others, tested, further, _⟩ := keep_cons_eq_ok.mp done
    rcases List.mem_cons.mp member with rfl | member
    · exact ⟨passed, tested⟩
    · exact ih further member

/-- What would be a source file if nothing were ignored is returned by a scan that comes to its end, or the
scan was told to ignore it or a directory above it. -/
theorem mem_or_ignored (found : fs.find root = .ok ⟨real, .directory entries⟩)
    (source : IsSource fs root (fun _ => .ok false) s parts) (built : matcher? fs root nested = .ok m)
    (scanned : sourceFiles fs root s nested = .ok files) :
    parts ∈ files ∨ ∃ r, r <+: parts ∧ r ≠ [] ∧ ignoredBy m root r = .ok true := by
  obtain ⟨content, below⟩ := source.regular found
  obtain ⟨⟨_, kept⟩, passed⟩ := (isSource_iff found).mp source
  obtain ⟨extension, unskipped, _, wanted⟩ := (includes_eq_ok_true_iff found below).mp passed
  obtain ⟨m, candidates, chosen, same, walked, tested, rfl⟩ := sourceFiles_eq_ok.mp scanned
  cases built.symm.trans same
  have inTree : (Entry.directory entries).get? parts = some (.file content) := by
    obtain ⟨_, _, _, reached⟩ := FileSystem.find_eq_ok_iff.mp found
    obtain ⟨_, again, inner⟩ := FileSystem.get?_of_append below
    cases reached.symm.trans again
    exact inner
  rcases walk_answers ((filesBelow_eq_walk found).symm.trans walked) inTree unskipped with kept | refused
  · have candidate : parts ∈ candidates :=
      (mem_filesBelow_iff found walked parts).mpr ⟨⟨content, below⟩, kept⟩
    obtain ⟨b, included⟩ := keep_answers tested candidate
    have looked : s.lowered.extensions.contains (Path.suffix parts).lower = true ∧
        parts.dropLast.any isSkipped = false := by
      simpa [List.contains_iff_mem, List.any_eq_false] using ⟨extension, unskipped⟩
    rw [includes_below found below, if_pos looked] at included
    obtain ⟨refused, asked, _⟩ := bind_ok_iff.mp included
    rw [mapError_ok_iff] at asked
    cases refused with
    | true => exact .inr (exists_of_anyIgnored asked)
    | false =>
      refine .inl (mem_sorted.mpr ((mem_keep_iff tested).mpr ⟨candidate, ?_⟩))
      exact (includes_eq_ok_true_iff found below).mpr ⟨extension, unskipped, asked, wanted⟩
  · exact .inr refused

end Answers

/-- A nested scan asks the rules of the ignore files that it has listed, one after the other. -/
theorem ignoredBy_nested (built : matcher? fs root true = .ok m)
    (asked : ignoreFiles fs root = .ok listed) :
    ∃ list, listed.mapM (fun parts => rulesAt fs (root ++ parts)) = .ok list ∧
      ∀ r, ignoredBy m root r = Ignore.Matcher.anyIgnores (root ++ r) false list := by
  rw [matcher?, if_pos rfl] at built
  obtain ⟨_, same, built⟩ := bind_ok_iff.mp built
  cases asked.symm.trans same
  split at built
  · cases built
    exact ⟨[], rfl, fun r => rfl⟩
  · obtain ⟨list, read, same⟩ := bind_ok_iff.mp built
    cases same
    exact ⟨list, read, fun r => rfl⟩

theorem directory_of_rulesAt_append {rules : Ignore.Rules}
    (read : rulesAt fs (root ++ (d ++ [name])) = .ok rules) : rules.directory = root ++ d := by
  rw [← List.append_assoc] at read
  exact directory_of_rulesAt read

/-- What a nested scan ignores is ignored from a directory at or above it. -/
theorem ignoredFrom_of_ignoredBy (found : fs.find root = .ok ⟨real, .directory entries⟩)
    (built : matcher? fs root true = .ok m) (proper : ∀ name ∈ q, Entry.isName name = true)
    (ignored : ignoredBy m root q = .ok true) : ∃ d, d <+: q ∧ IgnoredFrom fs root d q := by
  obtain ⟨listed, asked, members, _⟩ := ignoreFiles_exact found
  obtain ⟨list, read, answers⟩ := ignoredBy_nested built asked
  rw [answers] at ignored
  obtain ⟨rules, among, matched⟩ := Ignore.Matcher.exists_of_anyIgnores ignored
  obtain ⟨p, member, made⟩ := exists_of_mem_mapM_ok read among
  obtain ⟨⟨regular, _⟩, last⟩ := (members p).mp member
  obtain ⟨d, rfl⟩ := List.getLast?_eq_some_iff.mp last
  obtain ⟨properFile, file, unlinked⟩ := (FileSystem.regular_iff found).mpr regular
  have properDirectory : ∀ name ∈ d, Entry.isName name = true := fun name inside =>
    properFile name (List.mem_append_left _ inside)
  exact ⟨d, Ignore.Rules.prefix_of_ignores properDirectory proper (directory_of_rulesAt_append made) matched,
    file, unlinked _ (List.prefix_refl _) (by simp), rules, made, matched⟩

/-- The ignore file of a directory above a source file is asked in a nested scan. -/
theorem not_unignored_of_ignoredFrom (found : fs.find root = .ok ⟨real, .directory entries⟩)
    (built : matcher? fs root true = .ok m) (source : IsSource fs root (fun _ => .ok false) s parts)
    (above : d <+: parts) (proper : d ≠ parts) (dropped : IgnoredFrom fs root d q) :
    ignoredBy m root q ≠ .ok false := by
  obtain ⟨listed, asked, members, _⟩ := ignoreFiles_exact found
  obtain ⟨list, read, answers⟩ := ignoredBy_nested built asked
  obtain ⟨rules, made, matched⟩ := dropped.ignored
  have names : ∀ name ∈ d ++ [ignoreFileName], Entry.isName name = true := by
    intro name member
    rcases List.mem_append.mp member with member | member
    · exact source.proper name (above.subset member)
    · rw [List.mem_singleton.mp member]
      decide
  have unlinked : ∀ r, r <+: d ++ [ignoreFileName] → r ≠ [] → fs.isLink (root ++ r) = false := by
    intro r within nonempty
    rcases List.prefix_concat_iff.mp within with rfl | within
    · exact dropped.unlinked
    · exact source.unlinked r (within.trans above) nonempty
  have kept : Kept (fun _ => .ok false) [] (d ++ [ignoreFileName]) := by
    refine ⟨fun name member => ?_, fun _ _ _ _ => rfl⟩
    rw [List.dropLast_concat] at member
    obtain ⟨rest, rfl⟩ := above
    have nonempty : rest ≠ [] := fun empty => proper (by simp [empty])
    have inside : name ∈ (d ++ rest).dropLast := by
      rw [List.dropLast_append_of_ne_nil nonempty]
      exact List.mem_append_left _ member
    simpa [isSkipped, skippedNames] using source.unskipped name inside
  have member : d ++ [ignoreFileName] ∈ listed := (members _).mpr
    ⟨⟨(FileSystem.regular_iff found).mp ⟨names, dropped.file, unlinked⟩, kept⟩, by simp⟩
  obtain ⟨other, among, same⟩ := mem_of_mapM_ok read member
  cases made.symm.trans same
  intro left
  rw [answers] at left
  rcases Ignore.Matcher.anyIgnores_eq_ok_false left among with unmatched | outside
  · cases matched.symm.trans unmatched
  · cases matched.symm.trans outside

/-- Why a file is missing from a nested scan that comes to its end. A regular file below the root that passes
every other test is not returned exactly if the ignore file of the root or of a directory above the file
ignores a path strictly below this directory, the file or a directory above it; or if the ignore file of a
directory strictly between the root and the file ignores this directory itself. -/
theorem not_mem_nested_iff (source : IsSource fs root (fun _ => .ok false) s parts) (below : parts ≠ [])
    (scanned : sourceFiles fs root s true = .ok files) :
    parts ∉ files ↔
      (∃ d q, d <+: q ∧ d ≠ q ∧ q <+: parts ∧ IgnoredFrom fs root d q) ∨
        ∃ d, d ≠ [] ∧ d <+: parts ∧ d ≠ parts ∧ IgnoredFrom fs root d d := by
  obtain ⟨_, _, reached⟩ : ∃ q content, fs.find (root ++ parts) = .ok ⟨q, .file content⟩ := by
    have file := source.file
    unfold FileSystem.isFile at file
    split at file
    · exact ⟨_, _, ‹_›⟩
    · cases file
  obtain ⟨real, entries, found⟩ := FileSystem.find_directory_of_append reached below
  obtain ⟨m, _, _, built, _⟩ := sourceFiles_eq_ok.mp scanned
  have unreturned : ∀ d q, d <+: q → q <+: parts → d ≠ parts → q ≠ [] → IgnoredFrom fs root d q →
      parts ∉ files := by
    intro d q above within proper nonempty dropped member
    have returned := (mem_sourceFiles_iff found built scanned).mp member
    exact not_unignored_of_ignoredFrom found built source (above.trans within) proper dropped
      (returned.unignored q within nonempty)
  constructor
  · intro missing
    obtain ⟨q, within, nonempty, refused⟩ :=
      (mem_or_ignored found source built scanned).resolve_left missing
    have proper : ∀ name ∈ q, Entry.isName name = true := fun name member =>
      source.proper name (within.subset member)
    obtain ⟨d, above, dropped⟩ := ignoredFrom_of_ignoredBy found built proper refused
    by_cases itself : d = q
    · subst itself
      refine .inr ⟨d, nonempty, within, ?_, dropped⟩
      rintro rfl
      -- The file itself is no directory and holds no ignore file.
      have inside := dropped.file
      rw [← List.append_assoc] at inside
      unfold FileSystem.isFile at inside
      split at inside
      · rename_i other
        obtain ⟨_, _, directory⟩ := FileSystem.find_directory_of_append other (by simp)
        cases reached.symm.trans directory
      · cases inside
    · exact .inl ⟨d, q, above, itself, within, dropped⟩
  · rintro (⟨d, q, above, strict, within, dropped⟩ | ⟨d, nonempty, within, proper, dropped⟩)
    · refine unreturned d q above within ?_ ?_ dropped
      · rintro rfl
        exact strict (above.eq_of_length_le within.length_le)
      · rintro rfl
        exact strict (List.prefix_nil.mp above)
    · exact unreturned d d (List.prefix_refl d) within proper nonempty dropped

/-- A directory whose ignore file is meant for the hidden files in it. -/
def hiddenIgnored : FileSystem where
  root := .directory [("work", .directory [("sub", .directory [
    (".gitignore", .file (Utf8.encode ".*\n")), ("a.js", .file [])])])]

/-- The pattern `.*` matches no path below `sub` that leads to the file, but it matches `sub` itself. -/
theorem not_mem_nested_iff_hidden :
    IsSource hiddenIgnored ["work"] (fun _ => .ok false) {} ["sub", "a.js"] ∧
      sourceFiles hiddenIgnored ["work"] {} true = .ok [] ∧
      (¬ ∃ d q : List Text, d <+: q ∧ d ≠ q ∧ q <+: ["sub", "a.js"] ∧
        IgnoredFrom hiddenIgnored ["work"] d q) ∧
      ∃ d : List Text, d ≠ [] ∧ d <+: ["sub", "a.js"] ∧ d ≠ ["sub", "a.js"] ∧
        IgnoredFrom hiddenIgnored ["work"] d d := by
  have plain : sourceFiles hiddenIgnored ["work"] {} false = .ok [["sub", "a.js"]] := by decide +kernel
  have scanned : sourceFiles hiddenIgnored ["work"] {} true = .ok [] := by decide +kernel
  have source : IsSource hiddenIgnored ["work"] (fun _ => .ok false) {} ["sub", "a.js"] := by
    obtain ⟨real, entries, found⟩ := FileSystem.isDirectory_iff.mp
      (show hiddenIgnored.isDirectory ["work"] = true by decide)
    exact (mem_sourceFiles_iff (m := none) found rfl plain).mp (by simp)
  have unmatched : ¬ ∃ d q : List Text, d <+: q ∧ d ≠ q ∧ q <+: ["sub", "a.js"] ∧
      IgnoredFrom hiddenIgnored ["work"] d q := by
    rintro ⟨d, q, above, strict, within, file, _, rules, made, matched⟩
    have top : hiddenIgnored.isFile ["work", ".gitignore"] = false := by decide
    have left : ((rulesAt hiddenIgnored ["work", "sub", ".gitignore"]).bind
        fun rules => rules.ignores ["work", "sub", "a.js"]) = .ok false := by decide +kernel
    have places : ∀ r : List Text, r <+: ["sub", "a.js"] → r = [] ∨ r = ["sub"] ∨ r = ["sub", "a.js"] := by
      intro r inside
      simpa using (List.mem_inits r _).mpr inside
    rcases places d (above.trans within) with rfl | rfl | rfl
    · exact absurd file (Bool.not_eq_true _ ▸ top)
    · rcases places q within with rfl | rfl | rfl
      · simp at above
      · exact strict rfl
      · change rulesAt hiddenIgnored ["work", "sub", ".gitignore"] = .ok rules at made
        rw [made] at left
        cases matched.symm.trans left
    · exact strict (above.eq_of_length_le within.length_le)
  exact ⟨source, scanned, unmatched,
    ((not_mem_nested_iff source (by simp) scanned).mp (by simp)).resolve_left unmatched⟩

end ImportDepth.Scan
