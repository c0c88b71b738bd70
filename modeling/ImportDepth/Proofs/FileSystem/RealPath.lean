import ImportDepth.FileSystem.Resolve
import ImportDepth.Proofs.Path
import Mathlib.Data.List.Perm.Subperm

/-! The real path of what can be found. A link that is met again while it is being followed would have
to lead through itself, and so through more links than it does. Hence the real path of a path that leads
somewhere is where it leads. -/
namespace ImportDepth

namespace Entry

mutual

def linkPaths : Entry → List Path
  | file _ => []
  | link _ => [[]]
  | directory entries => linkPathsIn entries

def linkPathsIn : List (Text × Entry) → List Path
  | [] => []
  | (name, e) :: rest => e.linkPaths.map (name :: ·) ++ linkPathsIn rest

end

theorem length_linkPaths (e : Entry) : e.linkPaths.length = e.links := by
  refine linkPaths.induct (fun e => e.linkPaths.length = e.links)
    (fun entries => (linkPathsIn entries).length = linksIn entries) ?_ ?_ ?_ ?_ ?_ e
  · intro content
    rfl
  · intro target
    rfl
  · intro entries ih
    rw [linkPaths, links, ih]
  · rfl
  · intro name e rest ih ihRest
    rw [linkPathsIn, linksIn, List.length_append, List.length_map, ih, ihRest]

theorem mem_linkPathsIn {name : Text} {child : Entry} {rest : Path} {entries : List (Text × Entry)}
    (looked : entries.lookup name = some child) (member : rest ∈ child.linkPaths) :
    name :: rest ∈ linkPathsIn entries := by
  induction entries with
  | nil => simp at looked
  | cons entry others ih =>
    obtain ⟨n, e⟩ := entry
    rw [List.lookup_cons] at looked
    rw [linkPathsIn, List.mem_append]
    split at looked
    · rename_i same
      cases looked
      left
      rw [beq_iff_eq.mp same]
      exact List.mem_map_of_mem member
    · exact .inr (ih looked)

theorem mem_linkPaths {e : Entry} {p : Path} {target : Text} (found : e.get? p = some (.link target)) :
    p ∈ e.linkPaths := by
  induction p generalizing e with
  | nil =>
    cases e <;> simp_all [get?, linkPaths]
  | cons name rest ih =>
    cases e with
    | directory entries =>
      rw [get?] at found
      obtain ⟨child, looked, found⟩ := Option.bind_eq_some_iff.mp found
      exact mem_linkPathsIn looked (ih found)
    | file content | link target => simp [get?] at found

end Entry

namespace FileSystem

variable {fs : FileSystem} {here next there : Path} {part target : Text} {parts rest : List Text}
  {k fuel : Nat} {pending : List Path} {again : List Path → Path → List Text → Path × Bool}

theorem links_bound (distinct : pending.Nodup)
    (linked : ∀ q ∈ pending, ∃ target, fs.get? q = some (.link target)) :
    pending.length ≤ fs.root.links := by
  rw [← Entry.length_linkPaths]
  refine (List.subperm_of_subset distinct ?_).length_le
  intro q member
  obtain ⟨target, found⟩ := linked q member
  exact Entry.mem_linkPaths found

theorem realWith_idle (idle : part = [] ∨ part = ("." : Text)) :
    fs.realWith again pending here (part :: rest) = fs.realWith again pending here rest := by
  rw [realWith, if_pos idle]

/-- A part under which something stands is a name. -/
theorem not_idle_of_get? {e : Entry} (found : fs.get? (here ++ [part]) = some e) :
    ¬ (part = [] ∨ part = ("." : Text)) := by
  obtain ⟨proper, _⟩ := Entry.get?_isWellFormed fs.wellFormed found
  obtain ⟨nonempty, noDot, _⟩ := Entry.isName_iff.mp (proper part (by simp))
  rintro (empty | dot)
  · exact nonempty empty
  · exact noDot dot

theorem realWith_to (moved : fs.move here part = .ok (.to next)) :
    fs.realWith again pending here (part :: rest) = fs.realWith again pending next rest := by
  rcases move_cases moved with ⟨rfl, same⟩ | ⟨rfl, same⟩ | ⟨noDots, _, e, found, same⟩
  · cases same
    rw [realWith, if_neg (by decide), if_pos rfl]
  · cases same
    exact realWith_idle (.inr rfl)
  · obtain ⟨rfl, plain⟩ := onto_eq_to.mp same.symm
    rw [realWith, if_neg (not_idle_of_get? found), if_neg noDots]
    simp only [found]
    split
    · rename_i target linked
      exact absurd (Option.some.inj linked) (plain target)
    · rfl

theorem realWith_through (moved : fs.move here part = .ok (.through target))
    (fresh : here ++ [part] ∉ pending)
    (reached : again ((here ++ [part]) :: pending) (linkStart here target) (target.splitOn '/') =
      (next, true)) :
    fs.realWith again pending here (part :: rest) = fs.realWith again pending next rest := by
  rcases move_cases moved with ⟨_, same⟩ | ⟨_, same⟩ | ⟨noDots, _, e, found, same⟩
  · cases same
  · cases same
  · obtain rfl := onto_eq_through.mp same.symm
    rw [realWith, if_neg (not_idle_of_get? found), if_neg noDots]
    simp [found, fresh, reached]

/-- The parts that lead nowhere do not matter where everything is resolved. -/
theorem realWith_of_filter {raw : List Text}
    (reached : fs.realWith again pending here
      (raw.filter fun part => part ≠ [] && part ≠ ("." : Text)) = (there, true)) :
    fs.realWith again pending here raw = (there, true) := by
  induction raw generalizing here with
  | nil => exact reached
  | cons part rest ih =>
    by_cases idle : part = [] ∨ part = ("." : Text)
    · rw [List.filter_cons_of_neg (by simpa [or_iff_not_imp_left] using idle)] at reached
      rw [realWith_idle idle, ih reached]
    · rw [List.filter_cons_of_pos (by simpa using idle)] at reached
      simp only [realWith, if_neg idle] at reached ⊢
      split at reached
      · simp_all
      · split at reached
        · split at reached
          · simp at reached
          · split at reached
            · simp_all
            · simp at reached
        · simp_all

theorem realWith_split {front back : List Text}
    (reached : fs.realWith again pending here (front ++ back) = (there, true)) :
    ∃ mid, fs.realWith again pending here front = (mid, true) ∧
      fs.realWith again pending mid back = (there, true) := by
  induction front generalizing here with
  | nil => exact ⟨here, rfl, reached⟩
  | cons part rest ih =>
    simp only [List.cons_append, realWith] at reached ⊢
    split at reached
    · simp_all
    · split at reached
      · simp_all
      · split at reached
        · split at reached
          · simp at reached
          · split at reached
            · simp_all
            · simp at reached
        · simp_all

/-- The dot at the end of a link's path, which asks for a directory, does not matter for real paths, and
neither do doubled slashes. -/
theorem realWith_of_linkParts
    (reached : fs.realWith again pending here (linkParts target) = (there, true)) :
    fs.realWith again pending here (target.splitOn '/') = (there, true) := by
  have dot : ∀ mid, fs.realWith again pending mid [("." : Text)] = (mid, true) := by
    intro mid
    rw [realWith_idle (.inr rfl), realWith]
  apply realWith_of_filter
  unfold linkParts at reached
  obtain ⟨mid, first, second⟩ := realWith_split reached
  split at second
  · split at second
    · rw [← second, dot]
      exact first
    · rw [← second, realWith]
      exact first
  · rw [← second, realWith]
    exact first

/-- The links that are being followed: each once, and each of them leads through at least as many links
as are still to be followed. -/
structure Pending (fs : FileSystem) (k : Nat) (pending : List Path) : Prop where
  distinct : pending.Nodup
  heavier : ∀ q ∈ pending, ∃ target l mid, fs.get? q = some (.link target) ∧
    Leads fs (linkStart q.dropLast target) (linkParts target) l mid ∧ k ≤ l

theorem Pending.lighter {l : Nat} (following : Pending fs k pending) (fewer : l ≤ k) :
    Pending fs l pending := by
  refine ⟨following.distinct, fun q member => ?_⟩
  obtain ⟨target, j, mid, found, way, bound⟩ := following.heavier q member
  exact ⟨target, j, mid, found, way, Nat.le_trans fewer bound⟩

/-- A link that is met again while it is followed would lead through more links than it does. -/
theorem Pending.fresh {mid : Path} {l : Nat} (following : Pending fs l pending)
    (found : fs.get? (here ++ [part]) = some (.link target))
    (inner : Leads fs (linkStart here target) (linkParts target) k mid) (fewer : k < l) :
    here ++ [part] ∉ pending := by
  intro member
  obtain ⟨again, j, other, same, way, bound⟩ := following.heavier _ member
  rw [List.dropLast_concat] at way
  cases found.symm.trans same
  obtain ⟨rfl, _⟩ := inner.deterministic way
  omega

theorem Leads.realWith_eq (way : Leads fs here parts k there) (following : Pending fs k pending)
    (enough : fs.root.links ≤ fuel + pending.length) :
    fs.realWith (fs.realWithin fuel) pending here parts = (there, true) := by
  induction way generalizing pending fuel with
  | done => rfl
  | step moved _ ih =>
    rw [realWith_to moved]
    exact ih following enough
  | @follow here mid there part rest target k l moved inner onward ihInner ihOnward =>
    have found : fs.get? (here ++ [part]) = some (.link target) := by
      rcases move_cases moved with ⟨_, same⟩ | ⟨_, same⟩ | ⟨_, _, e, found, same⟩
      · cases same
      · cases same
      · rw [found, onto_eq_through.mp same.symm]
    have fresh := following.fresh found inner (by omega)
    have extended : Pending fs k ((here ++ [part]) :: pending) := by
      refine ⟨List.nodup_cons.mpr ⟨fresh, following.distinct⟩, fun q member => ?_⟩
      rcases List.mem_cons.mp member with rfl | member
      · exact ⟨target, k, mid, found, by rwa [List.dropLast_concat], Nat.le_refl k⟩
      · exact (following.lighter (by omega)).heavier q member
    have bound := links_bound extended.distinct fun q member => by
      obtain ⟨target, _, _, found, _⟩ := extended.heavier q member
      exact ⟨target, found⟩
    rw [List.length_cons] at bound
    -- There is one more link in the file system than in `pending`, so one more may be followed.
    cases fuel with
    | zero => omega
    | succ fuel =>
      have inside : fs.realWith (fs.realWithin fuel) ((here ++ [part]) :: pending)
          (linkStart here target) (linkParts target) = (mid, true) :=
        ihInner extended (by rw [List.length_cons]; omega)
      have followed : fs.realWithin (fuel + 1) ((here ++ [part]) :: pending)
          (linkStart here target) (target.splitOn '/') = (mid, true) :=
        realWith_of_linkParts inside
      rw [realWith_through moved fresh followed]
      exact ihOnward (following.lighter (by omega)) enough

variable {fs : FileSystem} {p q : Path} {e : Entry}

/-- The real path of what is found is the path under which it stands. -/
theorem resolve?_of_find (found : fs.find p = .ok ⟨q, e⟩) (plain : ∀ target, e ≠ .link target) :
    fs.resolve? p = some q := by
  obtain ⟨k, _, way, reached⟩ := find_eq_ok_iff.mp found
  have real : fs.realWithin (fs.root.links + 1) [] [] p = (q, true) :=
    way.realWith_eq ⟨List.nodup_nil, by simp⟩ (by simp)
  have proper : ∀ name ∈ q, Entry.isName name = true := (Entry.get?_isWellFormed fs.wellFormed reached).1
  have whole : q.filter (fun part => part ≠ [] && part ≠ ("." : Text)) = q := by
    refine List.filter_eq_self.mpr fun name member => ?_
    obtain ⟨nonempty, noDot, _⟩ := Entry.isName_iff.mp (proper name member)
    simp [nonempty, noDot]
  have normal : Path.normalize q = q := by
    simpa [Path.normalize] using Path.normalize_append_names (p := []) proper
  have straight : Leads fs [] q 0 q := leads_of_get? reached plain
  have direct : fs.find q = .ok ⟨q, e⟩ :=
    find_eq_ok_iff.mpr ⟨0, Nat.zero_le _, straight, reached⟩
  simp only [resolve?, real, whole, normal, direct]

end FileSystem
end ImportDepth
