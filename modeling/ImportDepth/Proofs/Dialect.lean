import ImportDepth.Dialect
import ImportDepth.Proofs.Path.LastComponent
import ImportDepth.Proofs.Text.LowerCase

/-! The dialect of a path. Only the last component that leads anywhere counts, and of it only what its last dot
begins, unless the name begins or ends with that dot. The letters of the extensions are such that lower case
compares nothing but the case of ASCII. So no directory in front, no idle slash or dot and no change of case
decides about the dialect of a file. -/
namespace ImportDepth

namespace Path

/-- Case says nothing about where a path is parted and what is dropped. -/
theorem components_map_asciiLower (written : Text) :
    components (written.map CodePoint.asciiLower) =
      (components written).map (List.map CodePoint.asciiLower) := by
  have dot (part : Text) : part.map CodePoint.asciiLower = ("." : Text) ↔ part = ("." : Text) := by
    have single : ("." : Text) = [CodePoint.ofChar '.'] := by decide
    have kept (c : CodePoint) : c.asciiLower = CodePoint.ofChar '.' ↔ c = CodePoint.ofChar '.' :=
      CodePoint.asciiLower_eq_mark_iff (by decide)
    rw [single, List.map_eq_singleton_iff]
    simp only [kept, exists_eq_right]
  rw [components, components, Text.splitOn_map fun c => CodePoint.asciiLower_eq_mark_iff (by decide),
    List.filter_map]
  congr 2
  funext part
  simp only [Function.comp_apply, ne_eq, List.map_eq_nil_iff, dot]

end Path

namespace Dialect

variable {p q name extension : Text} {parts : List Text} {dialect : Dialect}

/-- An extension is a dot before something without a dot, in small letters of ASCII other than `k`. -/
theorem extension_shape : ∀ e ∈ supportedExtensions,
    e.head? = some (CodePoint.ofChar '.') ∧ e.tail ≠ [] ∧ CodePoint.ofChar '.' ∉ e.tail ∧
      e.map CodePoint.asciiLower = e ∧ e.all fun d => d.val < 0x80 ∧ d.val ≠ 0x6B := by decide

theorem lower_eq_extension_iff (listed : extension ∈ supportedExtensions) (t : Text) :
    t.lower = extension ↔ t.SameButCase extension := by
  obtain ⟨_, _, _, small, plain⟩ := extension_shape extension listed
  rw [Text.SameButCase, small]
  exact Text.lower_eq_iff (by simpa using plain)

/-- What is an extension up to case, and has a stem before it, is the suffix of the name. -/
theorem nameSuffix_of_sameButCase {stem suffix : Text} (listed : extension ∈ supportedExtensions)
    (proper : stem ≠ []) (same : suffix.SameButCase extension) :
    Path.nameSuffix (stem ++ suffix) = suffix := by
  obtain ⟨first, nonempty, last, small, _⟩ := extension_shape extension listed
  obtain ⟨tail, rfl⟩ := List.head?_eq_some_iff.mp first
  rw [Text.SameButCase, small] at same
  obtain ⟨c, behind, rfl, dot, rfl⟩ := List.map_eq_cons_iff.mp same
  obtain rfl := (CodePoint.asciiLower_eq_mark_iff (by decide)).mp dot
  refine Path.nameSuffix_eq_cons_iff.mpr ⟨rfl, by simpa using nonempty, ?_, stem, proper, rfl⟩
  intro inside
  exact last (dot ▸ List.mem_map_of_mem inside)

/-- A name has an extension if it is a stem and, up to case, the extension. -/
theorem lower_nameSuffix_iff (listed : extension ∈ supportedExtensions) :
    (Path.nameSuffix name).lower = extension ↔
      ∃ stem suffix : Text, name = stem ++ suffix ∧ stem ≠ [] ∧ suffix.SameButCase extension := by
  rw [lower_eq_extension_iff listed]
  constructor
  · intro same
    cases suffixed : Path.nameSuffix name with
    | nil =>
      obtain ⟨first, _, _, small, _⟩ := extension_shape extension listed
      rw [suffixed, Text.SameButCase, small] at same
      rw [← same] at first
      cases first
    | cons c tail =>
      obtain ⟨rfl, _, _, stem, proper, written⟩ := Path.nameSuffix_eq_cons_iff.mp suffixed
      exact ⟨stem, _, written, proper, suffixed ▸ same⟩
  · rintro ⟨stem, suffix, rfl, proper, same⟩
    rwa [nameSuffix_of_sameButCase listed proper same]

/-- The last component decides: it is a stem and, up to case, an extension of the table. -/
theorem ofComponents?_eq_some_iff :
    ofComponents? parts = some dialect ↔
      ∃ extension stem suffix : Text, (extension, dialect) ∈ extensions ∧
        parts.getLast? = some (stem ++ suffix) ∧ stem ≠ [] ∧ suffix.SameButCase extension := by
  have looked (t : Text) : extensions.lookup t = some dialect ↔ (t, dialect) ∈ extensions :=
    Text.lookup_eq_some_iff_mem (by decide)
  rw [ofComponents?, looked, Path.suffix]
  constructor
  · intro listed
    have known : (Path.nameSuffix (parts.getLast?.getD [])).lower ∈ supportedExtensions :=
      List.mem_map_of_mem listed
    obtain ⟨stem, suffix, written, proper, same⟩ := (lower_nameSuffix_iff known).mp rfl
    refine ⟨_, stem, suffix, listed, ?_, proper, same⟩
    cases last : parts.getLast? with
    | none =>
      rw [last] at written
      exact absurd (List.append_eq_nil_iff.mp written.symm).1 proper
    | some name => rw [← written, last, Option.getD_some]
  · rintro ⟨extension, stem, suffix, listed, last, proper, same⟩
    have known : extension ∈ supportedExtensions := List.mem_map_of_mem listed
    rwa [last, Option.getD_some, (lower_nameSuffix_iff known).mpr ⟨stem, suffix, rfl, proper, same⟩]

theorem ofComponents?_of_unsuffixed (bare : Path.Unsuffixed (parts.getLast?.getD [])) :
    ofComponents? parts = none := by
  rw [ofComponents?, Path.suffix, Path.nameSuffix_of_unsuffixed bare]
  decide

theorem ofPath?_map_asciiLower (written : Text) :
    ofPath? (written.map CodePoint.asciiLower) = ofPath? written := by
  ext dialect
  rw [ofPath?, ofPath?, ofComponents?_eq_some_iff, ofComponents?_eq_some_iff, Path.components_map_asciiLower,
    List.getLast?_map]
  constructor
  · rintro ⟨extension, _, _, listed, last, proper, same⟩
    obtain ⟨name, named, parted⟩ := Option.map_eq_some_iff.mp last
    obtain ⟨stem, suffix, rfl, rfl, rfl⟩ := List.map_eq_append_iff.mp parted
    exact ⟨extension, stem, suffix, listed, named, by simpa using proper, Text.sameButCase_map_iff.mp same⟩
  · rintro ⟨extension, stem, suffix, listed, last, proper, same⟩
    refine ⟨extension, stem.map CodePoint.asciiLower, suffix.map CodePoint.asciiLower, listed, ?_,
      by simpa using proper, Text.sameButCase_map_iff.mpr same⟩
    rw [last, Option.map_some, List.map_append]

theorem ofPath?_of_sameButCase (same : p.SameButCase q) : ofPath? q = ofPath? p := by
  rw [← ofPath?_map_asciiLower q, ← same, ofPath?_map_asciiLower]

/-- Paths with the same components have the same dialect. -/
theorem ofPath?_of_components (same : Path.components p = Path.components q) : ofPath? p = ofPath? q := by
  rw [ofPath?, same, ofPath?]

theorem ofPath?_append_slash (nonempty : Path.components p ≠ []) (directory : Text) :
    ofPath? (directory ++ CodePoint.ofChar '/' :: p) = ofPath? p := by
  rw [ofPath?, Path.components_append_slash, ofComponents?, Path.suffix_append nonempty]
  rfl

/-- The last component that leads anywhere decides about the dialect. It is what is left last when empty
components and single dots are dropped. A path has the dialect of an extension exactly if this component is a stem
and the extension up to case; lower case of all Unicode compares no more than the case of ASCII there. Without such
a component, or if it is a double dot or has no dot inside of it, there is no dialect. What stands in front of a
path, how many slashes stand at one place, a slash or an idle dot at the end, and the case of ASCII letters never
matter. -/
theorem ofPath?_exact (p : Text) :
    (∀ name, Path.EndsIn p name ↔ (Path.components p).getLast? = some name) ∧
    (∀ dialect, ofPath? p = some dialect ↔
      ∃ extension stem suffix : Text, (extension, dialect) ∈ extensions ∧
        Path.EndsIn p (stem ++ suffix) ∧ stem ≠ [] ∧ suffix.SameButCase extension) ∧
    (∀ extension ∈ supportedExtensions, ∀ suffix : Text,
      suffix.SameButCase extension ↔ suffix.lower = extension) ∧
    ((¬ ∃ name, Path.EndsIn p name) → ofPath? p = none) ∧
    (∀ name, Path.EndsIn p name → name = (".." : Text) ∨ Path.Unsuffixed name → ofPath? p = none) ∧
    ((∃ name, Path.EndsIn p name) →
      (∀ directory : Text, ofPath? (directory ++ ("/" : Text) ++ p) = ofPath? p) ∧
      (∀ (front back : Text) (n : Nat), p = front ++ ("/" : Text) ++ back →
        ofPath? (front ++ List.replicate (n + 1) (CodePoint.ofChar '/') ++ back) = ofPath? p) ∧
      ofPath? (p ++ ("/" : Text)) = ofPath? p ∧ ofPath? (p ++ ("/." : Text)) = ofPath? p ∧
      ∀ q : Text, p.SameButCase q → ofPath? q = ofPath? p) := by
  refine ⟨fun _ => Path.getLast?_components_iff.symm, ?_, fun _ listed suffix =>
    (lower_eq_extension_iff listed suffix).symm, ?_, ?_, fun ends => ⟨?_, ?_, ?_, ?_, fun _ =>
    ofPath?_of_sameButCase⟩⟩
  · intro dialect
    simp only [← Path.getLast?_components_iff]
    exact ofComponents?_eq_some_iff
  · intro none
    apply ofComponents?_of_unsuffixed
    rw [Decidable.not_not.mp (mt Path.components_ne_nil_iff.mp none)]
    exact .inl List.not_mem_nil
  · intro name ends bare
    apply ofComponents?_of_unsuffixed
    rw [ends.getLast?_eq, Option.getD_some]
    rcases bare with rfl | bare
    · exact .inr (.inr ⟨("." : Text), by decide⟩)
    · exact bare
  · intro directory
    rw [Path.slash_eq, List.append_assoc]
    exact ofPath?_append_slash (Path.components_ne_nil_iff.mpr ends) directory
  · rintro front back n rfl
    apply ofPath?_of_components
    rw [Path.components_append_slashes, Path.slash_eq, List.append_assoc, List.singleton_append,
      Path.components_append_slash]
  · apply ofPath?_of_components
    rw [Path.slash_eq]
    exact Path.components_append_idle (.slash .nil) p
  · apply ofPath?_of_components
    exact Path.components_append_idle (.dot .nil) p

-- The long s shares its capital with `s`, but is another letter in lower case. A stem may be nothing but dots.
example : ofPath? "a.jſ" = none ∧ ofPath? "a.JS" = some javascript ∧ ofPath? "..../...ts" = some typescript := by
  decide

theorem ofPath?_exact_declarations :
    Path.EndsIn "lib/.Main.d.MTs/" ".Main.d.MTs" ∧ ofPath? "lib/.Main.d.MTs/" = some typescript ∧
      ofPath? (("/home" : Text) ++ ("/" : Text) ++ ("lib/.Main.d.MTs/" : Text)) = some typescript ∧
      ofPath? "lib//.Main.d.MTs/" = some typescript ∧
      ofPath? (("lib/.Main.d.MTs/" : Text) ++ ("/." : Text)) = some typescript ∧
      Text.SameButCase "lib/.Main.d.MTs/" "lib/.Main.d.mts/" ∧ ofPath? "lib/.Main.d.mts/" = some typescript ∧
      Path.EndsIn "lib/.mts" ".mts" ∧ Path.Unsuffixed ".mts" ∧ ofPath? "lib/.mts" = none := by
  have ends : Path.EndsIn "lib/.Main.d.MTs/" ".Main.d.MTs" := by decide
  have alike : Text.SameButCase "lib/.Main.d.MTs/" "lib/.Main.d.mts/" := by decide
  have hidden : Path.EndsIn "lib/.mts" ".mts" := by decide
  have unsuffixed : Path.Unsuffixed ".mts" := .inr (.inl ⟨("mts" : Text), by decide, by decide⟩)
  obtain ⟨_, decided, _, _, _, invariant⟩ := ofPath?_exact "lib/.Main.d.MTs/"
  obtain ⟨moved, repeated, _, idle, cased⟩ := invariant ⟨_, ends⟩
  have typed : ofPath? "lib/.Main.d.MTs/" = some typescript :=
    (decided typescript).mpr ⟨".mts", ".Main.d", ".MTs", by decide, by decide, by decide, by decide⟩
  obtain ⟨_, _, _, _, without, _⟩ := ofPath?_exact "lib/.mts"
  exact ⟨ends, typed, (moved "/home").trans typed,
    (repeated "lib" ".Main.d.MTs/" 1 (by decide)).trans typed, idle.trans typed, alike,
    (cased _ alike).trans typed, hidden, unsuffixed, without ".mts" hidden (.inr unsuffixed)⟩

end Dialect
end ImportDepth
