import ImportDepth.Ignore.Rules
import ImportDepth.Proofs.Outcome
import ImportDepth.Proofs.Path

/-! When ignore files fail to answer, and which of them answer. Below its own directory an ignore file
faults only over a pattern that spells no regular expression. What it ignores is its own directory or below
it. Several ignore files ignore a path exactly if one of them does, as long as none faults. -/
namespace ImportDepth.Ignore

variable {rules : Rules} {list : List Rules} {rule : Rule} {directory p : Path} {names : List Text}
  {slashAtEnd : Bool} {fault : Fault}

theorem Rule.matchesPath_below (proper : ∀ name ∈ names, Entry.isName name = true) :
    rule.matchesPath directory (directory ++ names) slashAtEnd =
      match rule.regex? with
      | none => .error .unreadable
      | some regex => .ok (regex.occursIn (subject rule.negated slashAtEnd names)) := by
  rw [matchesPath, Path.normalize_append_names proper, Path.relativeTo?_append]
  cases rule.regex? <;> rfl

/-- A rule matches only paths at or below its own directory. -/
theorem Rule.eq_append_of_matchesPath {matched : Bool}
    (answered : rule.matchesPath directory p slashAtEnd = .ok matched) :
    ∃ parts, p.normalize = directory.normalize ++ parts := by
  unfold matchesPath at answered
  split at answered
  · cases answered
  · cases answered
  · rename_i parts regex below _
    exact ⟨parts, Path.eq_append_of_relativeTo? below⟩

/-- A rule that stands below a root has no answer about paths beside its directory. -/
theorem Rule.matchesPath_outside {root : Path} {d q : List Text}
    (proper : ∀ name ∈ d, Entry.isName name = true) (properPath : ∀ name ∈ q, Entry.isName name = true)
    (outside : ¬ d <+: q) : rule.matchesPath (root ++ d) (root ++ q) slashAtEnd = .error .outside := by
  have away : (Path.normalize (root ++ q)).relativeTo? (Path.normalize (root ++ d)) = none := by
    rw [Option.eq_none_iff_forall_ne_some]
    intro parts below
    have same := Path.eq_append_of_relativeTo? below
    rw [Path.normalize_append_names properPath, Path.normalize_append_names proper,
      List.append_assoc, List.append_cancel_left_eq] at same
    exact outside ⟨parts, same.symm⟩
  rw [matchesPath, away]

namespace Rules

theorem firstMatch_error {asked : Rule → Except Fault Bool} {rest : List Rule}
    (failed : firstMatch asked rest = .error fault) : ∃ rule ∈ rest, asked rule = .error fault := by
  induction rest with
  | nil => cases failed
  | cons rule rest ih =>
    rw [firstMatch, bind_error_iff] at failed
    rcases failed with first | ⟨matched, _, onward⟩
    · exact ⟨rule, by simp, first⟩
    · cases matched with
      | true => cases onward
      | false =>
        obtain ⟨other, member, same⟩ := ih onward
        exact ⟨other, .tail _ member, same⟩

theorem firstMatch_eq_some {asked : Rule → Except Fault Bool} {rest : List Rule}
    (matched : firstMatch asked rest = .ok (some rule)) : rule ∈ rest ∧ asked rule = .ok true := by
  induction rest with
  | nil => cases matched
  | cons first rest ih =>
    obtain ⟨answer, asked, onward⟩ := bind_ok_iff.mp matched
    cases answer with
    | true =>
      cases onward
      exact ⟨by simp, asked⟩
    | false =>
      obtain ⟨member, same⟩ := ih onward
      exact ⟨.tail _ member, same⟩

/-- A path is ignored only if some rule matches it. -/
theorem exists_matchesPath_of_ignores (ignored : rules.ignores p slashAtEnd = .ok true) :
    ∃ rule ∈ rules.list, rule.matchesPath rules.directory p slashAtEnd = .ok true := by
  unfold ignores at ignored
  dsimp only at ignored
  split at ignored
  · obtain ⟨found?, searched, decided⟩ := bind_ok_iff.mp ignored
    cases found? with
    | none => cases decided
    | some rule =>
      obtain ⟨member, matched⟩ := firstMatch_eq_some searched
      exact ⟨rule, List.mem_reverse.mp member, matched⟩
  · obtain ⟨found?, searched, decided⟩ := bind_ok_iff.mp ignored
    cases found? with
    | none => cases decided
    | some rule => exact ⟨rule, firstMatch_eq_some searched⟩

/-- Rules that stand below a root ignore nothing beside or above their directory. -/
theorem prefix_of_ignores {root : Path} {d q : List Text} (proper : ∀ name ∈ d, Entry.isName name = true)
    (properPath : ∀ name ∈ q, Entry.isName name = true) (place : rules.directory = root ++ d)
    (ignored : rules.ignores (root ++ q) slashAtEnd = .ok true) : d <+: q := by
  obtain ⟨rule, _, matched⟩ := exists_matchesPath_of_ignores ignored
  obtain ⟨parts, same⟩ := Rule.eq_append_of_matchesPath matched
  rw [place, Path.normalize_append_names properPath, Path.normalize_append_names proper,
    List.append_assoc, List.append_cancel_left_eq] at same
  exact ⟨parts, same.symm⟩

theorem ignores_error (failed : rules.ignores p slashAtEnd = .error fault) :
    ∃ rule ∈ rules.list, rule.matchesPath rules.directory p slashAtEnd = .error fault := by
  unfold ignores at failed
  dsimp only at failed
  split at failed
  · rcases bind_error_iff.mp failed with first | ⟨_, _, onward⟩
    · obtain ⟨rule, member, same⟩ := firstMatch_error first
      exact ⟨rule, List.mem_reverse.mp member, same⟩
    · cases onward
  · rcases bind_error_iff.mp failed with first | ⟨_, _, onward⟩
    · exact firstMatch_error first
    · cases onward

/-- Rules that stand below a root ignore nothing outside their directory, and have no other fault there. -/
theorem ignores_outside {root : Path} {d q : List Text} (proper : ∀ name ∈ d, Entry.isName name = true)
    (properPath : ∀ name ∈ q, Entry.isName name = true) (place : rules.directory = root ++ d)
    (outside : ¬ d <+: q) : rules.ignores (root ++ q) slashAtEnd = .ok false ∨
      rules.ignores (root ++ q) slashAtEnd = .error .outside := by
  cases answer : rules.ignores (root ++ q) slashAtEnd with
  | ok ignored =>
    cases ignored with
    | false => exact .inl rfl
    | true => exact absurd (prefix_of_ignores proper properPath place answer) outside
  | error fault =>
    obtain ⟨rule, _, same⟩ := ignores_error answer
    rw [place, Rule.matchesPath_outside proper properPath outside] at same
    exact .inr same.symm

/-- The only fault below the directory of the rules is a pattern that spells no regular expression. -/
theorem ignores_below_error (proper : ∀ name ∈ names, Entry.isName name = true)
    (failed : rules.ignores (rules.directory ++ names) slashAtEnd = .error fault) :
    fault = .unreadable ∧ ∃ rule ∈ rules.list, rule.regex? = none := by
  obtain ⟨rule, member, same⟩ := ignores_error failed
  rw [Rule.matchesPath_below proper] at same
  split at same
  · rename_i unread
    cases same
    exact ⟨rfl, rule, member, unread⟩
  · cases same

theorem ignores_below_total (proper : ∀ name ∈ names, Entry.isName name = true)
    (readable : ∀ rule ∈ rules.list, rule.regex? ≠ none) :
    ∃ b, rules.ignores (rules.directory ++ names) slashAtEnd = .ok b := by
  cases answer : rules.ignores (rules.directory ++ names) slashAtEnd with
  | ok b => exact ⟨b, rfl⟩
  | error fault =>
    obtain ⟨_, rule, member, unread⟩ := ignores_below_error proper answer
    exact absurd unread (readable rule member)

end Rules

theorem Matcher.exists_of_anyIgnores (ignored : anyIgnores p slashAtEnd list = .ok true) :
    ∃ rules ∈ list, rules.ignores p slashAtEnd = .ok true := by
  induction list with
  | nil => cases ignored
  | cons first rest ih =>
    rw [anyIgnores] at ignored
    split at ignored
    · exact ⟨first, by simp, ‹_›⟩
    · obtain ⟨rules, member, same⟩ := ih ignored
      exact ⟨rules, .tail _ member, same⟩
    · obtain ⟨rules, member, same⟩ := ih ignored
      exact ⟨rules, .tail _ member, same⟩
    · cases ignored

theorem Matcher.anyIgnores_eq_ok_false (left : anyIgnores p slashAtEnd list = .ok false)
    (member : rules ∈ list) :
    rules.ignores p slashAtEnd = .ok false ∨ rules.ignores p slashAtEnd = .error .outside := by
  induction list with
  | nil => cases member
  | cons first rest ih =>
    rw [anyIgnores] at left
    split at left
    · cases left
    · rcases List.mem_cons.mp member with rfl | member
      · exact .inl ‹_›
      · exact ih left member
    · rcases List.mem_cons.mp member with rfl | member
      · exact .inr ‹_›
      · exact ih left member
    · cases left

theorem Matcher.anyIgnores_of_silent (silent : ∀ rules ∈ list,
    rules.ignores p slashAtEnd = .ok false ∨ rules.ignores p slashAtEnd = .error .outside) :
    anyIgnores p slashAtEnd list = .ok false := by
  induction list with
  | nil => rfl
  | cons first rest ih =>
    have others := ih fun rules member => silent rules (.tail _ member)
    rcases silent first (by simp) with left | outside
    · simpa only [anyIgnores, left] using others
    · simpa only [anyIgnores, outside] using others

end ImportDepth.Ignore
