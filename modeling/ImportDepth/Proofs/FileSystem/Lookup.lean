import ImportDepth.FileSystem.Basic

/-! What a path leads to. One component either moves on to another path without a link or goes through a
link; `Leads` puts such moves together and counts the links, and a search with enough links left finds
exactly what its path leads to. -/
namespace ImportDepth

namespace Entry

variable {e d : Entry} {p q : List Text}

theorem get?_append (e : Entry) (p q : List Text) :
    e.get? (p ++ q) = (e.get? p).bind (·.get? q) := by
  induction p generalizing e with
  | nil => simp [get?]
  | cons name rest ih =>
    cases e with
    | directory entries =>
      rw [List.cons_append, get?, get?, Option.bind_assoc]
      congr 1
      funext child
      exact ih child
    | file content | link target => simp [get?]

theorem get?_isWellFormed (sound : e.isWellFormed = true) (found : e.get? p = some d) :
    (∀ name ∈ p, isName name = true) ∧ d.isWellFormed = true := by
  induction p generalizing e with
  | nil =>
    cases e <;> simp_all [get?]
  | cons name rest ih =>
    cases e with
    | directory entries =>
      rw [get?] at found
      obtain ⟨child, looked, found⟩ := Option.bind_eq_some_iff.mp found
      rw [isWellFormed] at sound
      obtain ⟨proper, inner⟩ := areWellFormed_lookup sound looked
      obtain ⟨others, kept⟩ := ih inner found
      refine ⟨?_, kept⟩
      intro n member
      rcases List.mem_cons.mp member with rfl | member
      · exact proper
      · exact others n member
    | file content | link target => simp [get?] at found

theorem mem_of_lookup {name : Text} {entries : List (Text × Entry)}
    (looked : entries.lookup name = some e) : (name, e) ∈ entries := by
  obtain ⟨front, back, rfl, _⟩ := List.lookup_eq_some_iff.mp looked
  simp

/-- A well-formed directory holds nothing else under the name of an entry. -/
theorem lookup_of_mem {name : Text} {entries : List (Text × Entry)}
    (sound : areWellFormed entries = true) (member : (name, e) ∈ entries) :
    entries.lookup name = some e := by
  induction entries with
  | nil => cases member
  | cons entry rest ih =>
    obtain ⟨n, first⟩ := entry
    obtain ⟨_, different, _, others⟩ := areWellFormed_cons.mp sound
    rcases List.mem_cons.mp member with same | member
    · cases same
      simp
    · have other : (name == n) = false := beq_false_of_ne (different (name, e) member)
      rw [List.lookup_cons, other]
      exact ih others member

theorem isName_iff {name : Text} : isName name = true ↔
    name ≠ [] ∧ name ≠ ("." : Text) ∧ name ≠ (".." : Text) ∧ CodePoint.ofChar '/' ∉ name := by
  simp [isName, and_assoc]

end Entry

namespace FileSystem

/-- From a path the remaining components lead to another one, after a number of links. -/
inductive Leads (fs : FileSystem) : Path → List Text → Nat → Path → Prop
  | done (here : Path) : Leads fs here [] 0 here
  | step {here next there part rest k} (move : fs.move here part = .ok (.to next))
      (onward : Leads fs next rest k there) : Leads fs here (part :: rest) k there
  | follow {here mid there part rest target k l} (move : fs.move here part = .ok (.through target))
      (inner : Leads fs (linkStart here target) (linkParts target) k mid)
      (onward : Leads fs mid rest l there) : Leads fs here (part :: rest) (k + l + 1) there

variable {fs : FileSystem} {here mid there other : Path} {front back parts more : List Text}
  {k l n : Nat} {followLast : Bool}

namespace Leads

theorem append (first : Leads fs here front k mid) (second : Leads fs mid back l there) :
    Leads fs here (front ++ back) (k + l) there := by
  induction first with
  | done => simpa using second
  | step move _ ih => exact .step move (ih second)
  | @follow _ _ _ _ _ _ k j move inner _ _ ih =>
    have joined := Leads.follow move inner (ih second)
    rwa [show k + (j + l) + 1 = k + j + 1 + l by omega] at joined

theorem split (way : Leads fs here (front ++ back) k there) :
    ∃ i j mid, Leads fs here front i mid ∧ Leads fs mid back j there ∧ k = i + j := by
  induction front generalizing here k with
  | nil => exact ⟨0, k, here, .done here, way, (Nat.zero_add k).symm⟩
  | cons part front ih =>
    cases way with
    | step move onward =>
      obtain ⟨i, j, mid, first, second, rfl⟩ := ih onward
      exact ⟨i, j, mid, .step move first, second, rfl⟩
    | @follow _ _ _ _ _ _ m _ move inner onward =>
      obtain ⟨i, j, mid, first, second, rfl⟩ := ih onward
      exact ⟨m + i + 1, j, mid, .follow move inner first, second, by omega⟩

theorem deterministic (first : Leads fs here parts k there) (second : Leads fs here parts l other) :
    k = l ∧ there = other := by
  induction first generalizing l other with
  | done => cases second; exact ⟨rfl, rfl⟩
  | step move _ ih =>
    cases second with
    | step move' onward =>
      cases move.symm.trans move'
      exact ih onward
    | follow move' => cases move.symm.trans move'
  | follow move _ _ ihInner ihOnward =>
    cases second with
    | step move' => cases move.symm.trans move'
    | follow move' inner onward =>
      cases move.symm.trans move'
      obtain ⟨rfl, rfl⟩ := ihInner inner
      obtain ⟨rfl, rfl⟩ := ihOnward onward
      exact ⟨rfl, rfl⟩

/-- A search passes over what its path leads through, with that many links fewer left. -/
theorem searchWithin (way : Leads fs here parts k there) (passing : followLast = true ∨ more ≠ []) :
    fs.searchWithin followLast (n + k + 1) here (parts ++ more) =
      fs.searchWithin followLast (n + 1) there more := by
  induction way generalizing n more with
  | done => rfl
  | step move _ ih =>
    rw [← ih passing]
    simp only [FileSystem.searchWithin, List.cons_append, search, move]
  | @follow _ _ _ _ rest target k l move _ _ ihInner ihOnward =>
    have inside : followLast = true ∨ rest ++ more ≠ [] :=
      passing.imp_right fun nonempty => by simp [nonempty]
    have taken : ¬ (rest ++ more = [] ∧ (!followLast) = true) := by
      rintro ⟨empty, unfollowed⟩
      rcases inside with followed | nonempty
      · simp [followed] at unfollowed
      · exact nonempty empty
    rw [← ihOnward passing, ← ihInner inside,
      show n + (k + l + 1) + 1 = n + l + k + 1 + 1 by omega, FileSystem.searchWithin,
      List.cons_append, search, move]
    simp only [if_neg taken]

end Leads

theorem leads_of_searchWithin {e : Entry}
    (found : fs.searchWithin true n here parts = .ok ⟨there, e⟩) :
    ∃ k < n, Leads fs here parts k there ∧ fs.get? there = some e := by
  induction n generalizing here parts with
  | zero => simp [searchWithin] at found
  | succ n within =>
    rw [searchWithin] at found
    induction parts generalizing here with
    | nil =>
      rw [search] at found
      split at found
      · rename_i entry reached
        cases found
        exact ⟨0, Nat.succ_pos n, .done _, reached⟩
      · contradiction
    | cons part rest ih =>
      rw [search] at found
      split at found
      · contradiction
      · rename_i next move
        obtain ⟨k, fewer, way, reached⟩ := ih found
        exact ⟨k, fewer, .step move way, reached⟩
      · rename_i target move
        simp only [Bool.not_true, Bool.false_eq_true, and_false, if_false] at found
        obtain ⟨k, fewer, way, reached⟩ := within found
        obtain ⟨i, j, mid, inner, onward, rfl⟩ := way.split
        exact ⟨i + j + 1, by omega, .follow move inner onward, reached⟩

/-- Finding an entry means that the path leads to it through no more links than are followed. -/
theorem find_eq_ok_iff {p q : Path} {e : Entry} : fs.find p = .ok ⟨q, e⟩ ↔
    ∃ k ≤ linkLimit, Leads fs [] p k q ∧ fs.get? q = some e := by
  constructor
  · intro found
    obtain ⟨k, fewer, way, reached⟩ := leads_of_searchWithin found
    exact ⟨k, Nat.le_of_lt_succ fewer, way, reached⟩
  · rintro ⟨k, fewer, way, reached⟩
    have passed : fs.searchWithin true (linkLimit - k + k + 1) [] (p ++ []) =
        fs.searchWithin true (linkLimit - k + 1) q [] := way.searchWithin (.inl rfl)
    rw [List.append_nil, Nat.sub_add_cancel fewer] at passed
    rw [find, passed, searchWithin, search, reached]

theorem isDirectory_iff {p : Path} : fs.isDirectory p = true ↔
    ∃ real entries, fs.find p = .ok ⟨real, .directory entries⟩ := by
  unfold isDirectory
  split
  · rename_i real entries found
    simp [found]
  · rename_i other
    simp only [Bool.false_eq_true, false_iff]
    rintro ⟨real, entries, found⟩
    exact other real entries found

variable {e : Entry} {name target : Text}

/-- What stands under a name decides the move. -/
theorem move_of_get? (found : fs.get? (here ++ [name]) = some e) :
    fs.move here name = .ok (.onto (here ++ [name]) e) := by
  obtain ⟨proper, _⟩ := Entry.get?_isWellFormed fs.wellFormed found
  obtain ⟨_, noDot, noDots, _⟩ := Entry.isName_iff.mp (proper name (by simp))
  rw [get?, Entry.get?_append] at found
  obtain ⟨d, reached, found⟩ := Option.bind_eq_some_iff.mp found
  cases d with
  | directory entries =>
    have looked : entries.lookup name = some e := by
      simpa [Entry.get?] using found
    simp only [move, get?, reached, if_neg noDots, if_neg noDot, looked]
  | file content | link target => simp [Entry.get?] at found

theorem move_cases {part : Text} {m : Move} (moved : fs.move here part = .ok m) :
    part = (".." : Text) ∧ m = .to here.dropLast ∨ part = ("." : Text) ∧ m = .to here ∨
      part ≠ (".." : Text) ∧ part ≠ ("." : Text) ∧
        ∃ e, fs.get? (here ++ [part]) = some e ∧ m = .onto (here ++ [part]) e := by
  unfold move at moved
  split at moved
  · rename_i entries reached
    split at moved
    · cases moved
      exact .inl ⟨‹_›, rfl⟩
    · split at moved
      · cases moved
        exact .inr (.inl ⟨‹_›, rfl⟩)
      · rename_i noDots noDot
        split at moved
        · contradiction
        · rename_i e looked
          cases moved
          refine .inr (.inr ⟨noDots, noDot, e, ?_, rfl⟩)
          rw [get?, Entry.get?_append, ← get?, reached]
          simp [Entry.get?, looked]
  · contradiction
  · contradiction

theorem directory_of_move {part : Text} {m : Move} (moved : fs.move here part = .ok m) :
    ∃ entries, fs.get? here = some (.directory entries) := by
  unfold move at moved
  split at moved
  · exact ⟨_, ‹_›⟩
  · contradiction
  · contradiction

theorem onto_eq_to {next q : Path} : Move.onto next e = .to q ↔
    q = next ∧ ∀ target, e ≠ .link target := by
  cases e <;> simp [Move.onto, eq_comm]

theorem onto_eq_through {next : Path} : Move.onto next e = .through target ↔ e = .link target := by
  cases e <;> simp [Move.onto]

/-- Below a directory, names lead to what stands under them unless that is a link. -/
theorem leads_of_get? (found : fs.get? (here ++ parts) = some e)
    (plain : ∀ target, e ≠ .link target) : Leads fs here parts 0 (here ++ parts) := by
  induction parts generalizing here with
  | nil => simpa using Leads.done here
  | cons name rest ih =>
    have joined : here ++ name :: rest = here ++ [name] ++ rest := by simp
    rw [joined] at found ⊢
    have below := found
    rw [get?, Entry.get?_append] at below
    obtain ⟨child, reached, below⟩ := Option.bind_eq_some_iff.mp below
    have onto : ∀ target, child ≠ .link target := by
      rintro target rfl
      cases rest with
      | nil => exact plain target (by simpa [Entry.get?] using below.symm)
      | cons next rest => simp [Entry.get?] at below
    exact .step ((move_of_get? reached).trans (congrArg _ (onto_eq_to.mpr ⟨rfl, onto⟩))) (ih found)

end FileSystem
end ImportDepth
