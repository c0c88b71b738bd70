import ImportDepth.Proofs.FileSystem.Below
import ImportDepth.Proofs.Outcome
import ImportDepth.Scan.Walk

/-! What the walk over a directory finds: the regular files of the tree on whose way no directory is
skipped or ignored, each once. This holds of every walk that comes to its end, whatever the ignore files
answer about paths that are never asked for. -/
namespace ImportDepth

namespace Scan

variable {ignored : Ignored} {here rest : List Text} {name : Text} {e : Entry}
  {entries others : List (Text × Entry)} {files : List (List Text)}

/-- No directory on the way from a place to a path is skipped or ignored. -/
structure Kept (ignored : Ignored) (here parts : List Text) : Prop where
  unskipped : ∀ name ∈ parts.dropLast, isSkipped name = false
  unignored : ∀ r, r <+: parts → r ≠ [] → r ≠ parts → ignored (here ++ r) = .ok false

theorem kept_nil : Kept ignored here [] :=
  ⟨by simp, fun r within nonempty _ => absurd (List.prefix_nil.mp within) nonempty⟩

theorem kept_singleton : Kept ignored here [name] := by
  refine ⟨by simp, fun r within nonempty shorter => ?_⟩
  obtain ⟨c, r, rfl⟩ := List.exists_cons_of_ne_nil nonempty
  obtain ⟨rfl, tail⟩ := List.cons_prefix_cons.mp within
  exact absurd (by rw [List.prefix_nil.mp tail]) shorter

theorem kept_cons (nonempty : rest ≠ []) : Kept ignored here (name :: rest) ↔
    isSkipped name = false ∧ ignored (here ++ [name]) = .ok false ∧
      Kept ignored (here ++ [name]) rest := by
  have last : (name :: rest).dropLast = name :: rest.dropLast := List.dropLast_cons_of_ne_nil nonempty
  constructor
  · rintro ⟨unskipped, unignored⟩
    rw [last] at unskipped
    refine ⟨unskipped name (by simp), unignored [name] (by simp) (by simp) (by simpa using nonempty.symm),
      fun n member => unskipped n (.tail _ member), fun r within _ shorter => ?_⟩
    have further := unignored (name :: r) (by simpa using within) (by simp) (by simpa using shorter)
    simpa using further
  · rintro ⟨unskipped, unignored, below⟩
    refine ⟨?_, fun r within nonempty shorter => ?_⟩
    · rw [last]
      intro n member
      rcases List.mem_cons.mp member with rfl | member
      · exact unskipped
      · exact below.unskipped n member
    · obtain ⟨c, r, rfl⟩ := List.exists_cons_of_ne_nil nonempty
      obtain ⟨rfl, tail⟩ := List.cons_prefix_cons.mp within
      by_cases empty : r = []
      · simpa [empty] using unignored
      · have further := below.unignored r tail empty (by simpa using shorter)
        simpa using further

/-- The walk enters an entry exactly if the files in it are kept as far as its name goes. -/
theorem kept_cons_iff {content : Bytes} (found : e.get? rest = some (.file content)) :
    Kept ignored here (name :: rest) ↔
      isPruned ignored here name e = .ok false ∧ Kept ignored (here ++ [name]) rest := by
  cases e with
  | directory entries =>
    have nonempty : rest ≠ [] := by
      rintro rfl
      simp [Entry.get?] at found
    rw [kept_cons nonempty, isPruned]
    cases skipped : isSkipped name <;> simp [Entry.isDirectory]
  | file other =>
    have empty : rest = [] := by
      cases rest with
      | nil => rfl
      | cons => simp [Entry.get?] at found
    subst empty
    simp [isPruned, Entry.isDirectory, kept_singleton, kept_nil]
  | link target => cases rest <;> simp [Entry.get?] at found

theorem walkEntries_cons_eq_ok :
    walkEntries ignored here ((name, e) :: entries) = .ok files ↔
      ∃ pruned first further, isPruned ignored here name e = .ok pruned ∧
        (if pruned then .ok [] else walk ignored (here ++ [name]) e) = .ok first ∧
        walkEntries ignored here entries = .ok further ∧ files = first ++ further := by
  rw [walkEntries, bind_ok_iff]
  refine exists_congr fun pruned => ?_
  constructor
  · rintro ⟨asked, onward⟩
    cases pruned
    all_goals
      obtain ⟨first, entered, onward⟩ := bind_ok_iff.mp onward
      obtain ⟨further, walked, joined⟩ := bind_ok_iff.mp onward
      exact ⟨first, further, asked, entered, walked, (Except.ok.inj joined).symm⟩
  · rintro ⟨first, further, asked, entered, walked, rfl⟩
    refine ⟨asked, ?_⟩
    cases pruned
    all_goals
      exact bind_ok_iff.mpr ⟨first, entered, bind_ok_iff.mpr ⟨further, walked, rfl⟩⟩

/-- The files that are found at or below an entry. -/
def Finds (ignored : Ignored) (here : List Text) (e : Entry) (p : List Text) : Prop :=
  ∃ parts, p = here ++ parts ∧ (∃ content, e.get? parts = some (.file content)) ∧
    Kept ignored here parts

theorem finds_cons (sound : Entry.areWellFormed ((name, e) :: entries) = true) (p : List Text) :
    Finds ignored here (.directory ((name, e) :: entries)) p ↔
      isPruned ignored here name e = .ok false ∧ Finds ignored (here ++ [name]) e p ∨
        Finds ignored here (.directory entries) p := by
  obtain ⟨_, different, _, _⟩ := Entry.areWellFormed_cons.mp sound
  constructor
  · rintro ⟨parts, rfl, ⟨content, found⟩, kept⟩
    cases parts with
    | nil => simp [Entry.get?] at found
    | cons n rest =>
      rw [Entry.get?, List.lookup_cons] at found
      split at found
      · rename_i same
        rw [Option.bind_some] at found
        rw [beq_iff_eq.mp same] at kept ⊢
        obtain ⟨entered, below⟩ := (kept_cons_iff found).mp kept
        exact .inl ⟨entered, rest, by simp, ⟨content, found⟩, below⟩
      · exact .inr ⟨n :: rest, rfl, ⟨content, by rwa [Entry.get?]⟩, kept⟩
  · rintro (⟨entered, rest, rfl, ⟨content, found⟩, below⟩ | ⟨parts, rfl, ⟨content, found⟩, kept⟩)
    · refine ⟨name :: rest, by simp, ⟨content, ?_⟩, (kept_cons_iff found).mpr ⟨entered, below⟩⟩
      simpa [Entry.get?] using found
    · refine ⟨parts, rfl, ⟨content, ?_⟩, kept⟩
      cases parts with
      | nil => simp [Entry.get?] at found
      | cons n rest =>
        rw [Entry.get?] at found ⊢
        obtain ⟨child, looked, inner⟩ := Option.bind_eq_some_iff.mp found
        obtain ⟨front, back, same, _⟩ := List.lookup_eq_some_iff.mp looked
        have other : (n == name) = false :=
          beq_false_of_ne (different (n, child) (by simp [same]))
        rw [List.lookup_cons, other, looked, Option.bind_some, inner]

theorem finds_file {content : Bytes} {p : List Text} :
    Finds ignored here (.file content) p ↔ p = here := by
  constructor
  · rintro ⟨parts, rfl, ⟨_, found⟩, _⟩
    cases parts with
    | nil => simp
    | cons => simp [Entry.get?] at found
  · rintro rfl
    exact ⟨[], by simp, ⟨content, rfl⟩, kept_nil⟩

theorem not_finds_link {target : Text} {p : List Text} : ¬ Finds ignored here (.link target) p := by
  rintro ⟨parts, _, ⟨_, found⟩, _⟩
  cases parts <;> simp [Entry.get?] at found

theorem name_of_finds {p : List Text} (finds : Finds ignored here (.directory entries) p) :
    ∃ entry ∈ entries, ∃ parts, p = here ++ entry.1 :: parts := by
  obtain ⟨parts, rfl, ⟨_, found⟩, _⟩ := finds
  cases parts with
  | nil => simp [Entry.get?] at found
  | cons n rest =>
    rw [Entry.get?] at found
    obtain ⟨child, looked, _⟩ := Option.bind_eq_some_iff.mp found
    obtain ⟨front, back, listed, _⟩ := List.lookup_eq_some_iff.mp looked
    exact ⟨(n, child), by simp [listed], rest, rfl⟩

structure Returns (ignored : Ignored) (here : List Text) (e : Entry) (files : List (List Text)) :
    Prop where
  mem_iff : ∀ p, p ∈ files ↔ Finds ignored here e p
  nodup : files.Nodup

/-- The files of an entry that is entered come before those of the entries after it. -/
theorem Returns.cons {further : List (List Text)}
    (sound : Entry.areWellFormed ((name, e) :: entries) = true)
    (entered : isPruned ignored here name e = .ok false)
    (first : Returns ignored (here ++ [name]) e files)
    (rest : Returns ignored here (.directory entries) further) :
    Returns ignored here (.directory ((name, e) :: entries)) (files ++ further) := by
  obtain ⟨_, different, _, _⟩ := Entry.areWellFormed_cons.mp sound
  constructor
  · intro p
    rw [List.mem_append, first.mem_iff, rest.mem_iff, finds_cons sound]
    simp [entered]
  · refine List.nodup_append.mpr ⟨first.nodup, rest.nodup, ?_⟩
    rintro p member q memberLater rfl
    -- A file from the first entry and one from a later entry differ in the name after `here`.
    obtain ⟨parts, same, _⟩ := (first.mem_iff p).mp member
    obtain ⟨entry, listed, parts', same'⟩ := name_of_finds ((rest.mem_iff p).mp memberLater)
    have equal : here ++ name :: parts = here ++ entry.1 :: parts' := by
      rw [← same', same]
      simp
    simp only [List.append_cancel_left_eq, List.cons.injEq] at equal
    exact different entry listed equal.1.symm

theorem Returns.skip {further : List (List Text)}
    (sound : Entry.areWellFormed ((name, e) :: entries) = true)
    (skipped : isPruned ignored here name e = .ok true)
    (rest : Returns ignored here (.directory entries) further) :
    Returns ignored here (.directory ((name, e) :: entries)) further := by
  refine ⟨fun p => ?_, rest.nodup⟩
  rw [rest.mem_iff, finds_cons sound]
  simp [skipped]

/-- A walk that comes to its end returns exactly the files that are kept, each once. -/
theorem walk_returns (e : Entry) : ∀ (here : List Text) (files : List (List Text)),
    e.isWellFormed = true → walk ignored here e = .ok files → Returns ignored here e files := by
  -- The induction that counts links goes through entries and their lists as the walk does.
  refine Entry.links.induct
    (fun e => ∀ here files, e.isWellFormed = true → walk ignored here e = .ok files →
      Returns ignored here e files)
    (fun entries => ∀ here files, Entry.areWellFormed entries = true →
      walkEntries ignored here entries = .ok files → Returns ignored here (.directory entries) files)
    ?_ ?_ ?_ ?_ ?_ e
  · intro content here files _ walked
    cases walked
    exact ⟨by simp [finds_file], by simp⟩
  · intro target here files _ walked
    cases walked
    exact ⟨by simp [not_finds_link], by simp⟩
  · intro entries ih here files sound walked
    rw [walk] at walked
    rw [Entry.isWellFormed] at sound
    exact ih here files sound walked
  · intro here files _ walked
    cases walked
    refine ⟨fun p => ⟨by simp, fun finds => ?_⟩, by simp⟩
    obtain ⟨entry, listed, _⟩ := name_of_finds finds
    cases listed
  · intro name e rest ih ihRest here files sound walked
    obtain ⟨_, _, inner, others⟩ := Entry.areWellFormed_cons.mp sound
    obtain ⟨pruned, first, further, asked, entered, onward, rfl⟩ := walkEntries_cons_eq_ok.mp walked
    have later := ihRest here further others onward
    cases pruned with
    | true =>
      cases entered
      exact later.skip sound asked
    | false => exact (ih _ first inner entered).cons sound asked later

/-- The walk comes to its end if every question about a path of names has an answer. -/
theorem walk_total (e : Entry) : ∀ here : List Text, e.isWellFormed = true →
    (∀ names, (∀ name ∈ names, Entry.isName name = true) → ∃ b, ignored (here ++ names) = .ok b) →
      ∃ files, walk ignored here e = .ok files := by
  refine Entry.links.induct
    (fun e => ∀ here : List Text, e.isWellFormed = true →
      (∀ names, (∀ name ∈ names, Entry.isName name = true) → ∃ b, ignored (here ++ names) = .ok b) →
        ∃ files, walk ignored here e = .ok files)
    (fun entries => ∀ here : List Text, Entry.areWellFormed entries = true →
      (∀ names, (∀ name ∈ names, Entry.isName name = true) → ∃ b, ignored (here ++ names) = .ok b) →
        ∃ files, walkEntries ignored here entries = .ok files) ?_ ?_ ?_ ?_ ?_ e
  · intro content here _ _
    exact ⟨[here], rfl⟩
  · intro target here _ _
    exact ⟨[], rfl⟩
  · intro entries ih here sound answered
    rw [Entry.isWellFormed] at sound
    rw [walk]
    exact ih here sound answered
  · intro here _ _
    exact ⟨[], rfl⟩
  · intro name e rest ih ihRest here sound answered
    obtain ⟨proper, _, inner, others⟩ := Entry.areWellFormed_cons.mp sound
    obtain ⟨pruned, asked⟩ : ∃ pruned, isPruned ignored here name e = .ok pruned := by
      unfold isPruned
      split
      · exact ⟨false, rfl⟩
      · split
        · exact ⟨true, rfl⟩
        · exact answered [name] (by simpa using proper)
    obtain ⟨further, onward⟩ := ihRest here others answered
    have below : ∀ names, (∀ name ∈ names, Entry.isName name = true) →
        ∃ b, ignored (here ++ [name] ++ names) = .ok b := by
      intro names valid
      simpa using answered (name :: names) (by simpa [proper] using valid)
    obtain ⟨first, entered⟩ := ih (here ++ [name]) inner below
    cases pruned with
    | true => exact ⟨_, walkEntries_cons_eq_ok.mpr ⟨true, [], further, asked, rfl, onward, rfl⟩⟩
    | false => exact ⟨_, walkEntries_cons_eq_ok.mpr ⟨false, first, further, asked, entered, onward, rfl⟩⟩

section FilesBelow

variable {fs : FileSystem} {root real : Path}

theorem filesBelow_eq_walk (found : fs.find root = .ok ⟨real, .directory entries⟩) :
    filesBelow fs root ignored = walk ignored [] (.directory entries) := by
  rw [filesBelow, FileSystem.list?, found, walk]

theorem isWellFormed_of_find (found : fs.find root = .ok ⟨real, e⟩) : e.isWellFormed = true := by
  obtain ⟨_, _, _, reached⟩ := FileSystem.find_eq_ok_iff.mp found
  exact (Entry.get?_isWellFormed fs.wellFormed reached).2

theorem mem_filesBelow_iff (found : fs.find root = .ok ⟨real, .directory entries⟩)
    (walked : filesBelow fs root ignored = .ok files) (p : List Text) :
    p ∈ files ↔ (∃ content, fs.get? (real ++ p) = some (.file content)) ∧ Kept ignored [] p := by
  obtain ⟨_, _, _, reached⟩ := FileSystem.find_eq_ok_iff.mp found
  rw [filesBelow_eq_walk found] at walked
  rw [(walk_returns _ _ _ (isWellFormed_of_find found) walked).mem_iff]
  simp only [Finds, FileSystem.get?, Entry.get?_append] at reached ⊢
  simp [reached]

theorem nodup_filesBelow (found : fs.find root = .ok ⟨real, .directory entries⟩)
    (walked : filesBelow fs root ignored = .ok files) : files.Nodup := by
  rw [filesBelow_eq_walk found] at walked
  exact (walk_returns _ _ _ (isWellFormed_of_find found) walked).nodup

theorem filesBelow_total (found : fs.find root = .ok ⟨real, .directory entries⟩)
    (answered : ∀ names, (∀ name ∈ names, Entry.isName name = true) → ∃ b, ignored names = .ok b) :
    ∃ files, filesBelow fs root ignored = .ok files := by
  rw [filesBelow_eq_walk found]
  exact walk_total _ [] (isWellFormed_of_find found) (by simpa using answered)

end FilesBelow

theorem mem_sorted {p : List Text} : p ∈ sorted files ↔ p ∈ files := (List.mergeSort_perm _ _).mem_iff

def Increasing (files : List (List Text)) : Prop :=
  files.Pairwise fun a b => (Path.relativeText a).Precedes (Path.relativeText b)

/-- Different paths of names, once sorted, have strictly increasing texts. -/
theorem increasing_sorted (distinct : files.Nodup)
    (proper : ∀ p ∈ files, p ≠ [] ∧ ∀ name ∈ p, Entry.isName name = true) :
    Increasing (sorted files) := by
  have ordered : (sorted files).Pairwise fun a b =>
      Text.le (Path.relativeText a) (Path.relativeText b) = true := by
    apply List.pairwise_mergeSort
    · intro a b c first second
      exact Text.le_trans first second
    · intro a b
      simpa using Text.le_total _ _
  have different : (sorted files).Nodup := (List.mergeSort_perm _ _).nodup_iff.mpr distinct
  refine (ordered.and different).imp_of_mem fun {a b} memberA memberB both => ?_
  obtain ⟨nonemptyA, properA⟩ := proper a (mem_sorted.mp memberA)
  obtain ⟨nonemptyB, properB⟩ := proper b (mem_sorted.mp memberB)
  have texts : Path.relativeText a ≠ Path.relativeText b := fun same =>
    both.2 (Path.relativeText_injective ⟨nonemptyA, nonemptyB⟩ properA properB same)
  exact (Text.le_iff.mp both.1).resolve_left texts

theorem nodup_of_increasing (increasing : Increasing files) : files.Nodup := by
  refine increasing.imp ?_
  rintro a b smaller rfl
  exact Text.Precedes.irrefl _ smaller

/-- A strictly increasing list is determined by its members. -/
theorem eq_of_increasing {others : List (List Text)}
    (increasing : Increasing files) (increasing' : Increasing others)
    (same : ∀ p, p ∈ files ↔ p ∈ others) : files = others := by
  have permuted : files.Perm others :=
    (List.perm_ext_iff_of_nodup (nodup_of_increasing increasing) (nodup_of_increasing increasing')).mpr same
  refine permuted.eq_of_pairwise ?_ increasing increasing'
  intro a b _ _ smaller larger
  exact absurd larger smaller.asymm

end Scan
end ImportDepth
