import ImportDepth.Proofs.Config
import Mathlib.Data.List.Perm.Basic

/-! Configurations in normal form. A configuration that was accepted states itself: written out in full, it is
accepted again and comes out unchanged. The order of the keys of a table plays no part, because every entry is
looked up by its key, and only the order of what is said about unknown keys follows it. -/
namespace ImportDepth

namespace Checked

/-- The same data, or the same issues in some order. -/
inductive Alike {α : Type} : Checked α → Checked α → Prop where
  | ok (a : α) : Alike (.ok a) (.ok a)
  | error {issues issues' : List Issue} (same : issues.Perm issues') : Alike (.error issues) (.error issues')

variable {α β : Type} {first first' : Checked α} {second second' : Checked β}

theorem Alike.refl (checked : Checked α) : Alike checked checked := by
  cases checked with
  | ok a => exact .ok a
  | error issues => exact .error (.refl issues)

theorem Alike.both (alike : Alike first first') (alike' : Alike second second') :
    Alike (both first second) (both first' second') := by
  cases alike with
  | ok a =>
    cases alike' with
    | ok b => exact .ok (a, b)
    | error same => exact .error same
  | error same =>
    cases alike' with
    | ok b => exact .error same
    | error same' => exact .error (same.append same')

theorem Alike.map (alike : Alike first first') (f : α → β) : Alike (first.map f) (first'.map f) := by
  cases alike with
  | ok a => exact .ok (f a)
  | error same => exact .error same

def Mentions {α : Type} (issues : List Issue) (checked : Checked α) : Prop :=
  ∃ all, checked = .error all ∧ issues ⊆ all

variable {issues : List Issue}

theorem Mentions.both_left (mentions : Mentions issues first) (second : Checked β) :
    Mentions issues (both first second) := by
  obtain ⟨all, rfl, part⟩ := mentions
  cases second with
  | ok b => exact ⟨all, rfl, part⟩
  | error more => exact ⟨all ++ more, rfl, List.subset_append_of_subset_left more part⟩

theorem Mentions.both_right (mentions : Mentions issues second) (first : Checked α) :
    Mentions issues (both first second) := by
  obtain ⟨all, rfl, part⟩ := mentions
  cases first with
  | ok a => exact ⟨all, rfl, part⟩
  | error more => exact ⟨more ++ all, rfl, List.subset_append_of_subset_right more part⟩

theorem Mentions.map (mentions : Mentions issues first) (f : α → β) : Mentions issues (first.map f) := by
  obtain ⟨all, rfl, part⟩ := mentions
  exact ⟨all, rfl, part⟩

end Checked

namespace Value

variable {entries entries' : List (Text × Value)} {key : Text}

theorem lookup_eq_of_perm (distinct : (entries.map Prod.fst).Nodup) (reordered : entries.Perm entries') :
    entries.lookup key = entries'.lookup key := by
  have distinct' : (entries'.map Prod.fst).Nodup := (reordered.map Prod.fst).nodup_iff.mp distinct
  ext v
  rw [Text.lookup_eq_some_iff_mem distinct, Text.lookup_eq_some_iff_mem distinct', reordered.mem_iff]

theorem optional_eq_of_perm (distinct : (entries.map Prod.fst).Nodup) (reordered : entries.Perm entries')
    {α : Type} (default : α) (take : Value → Checked α) :
    optional entries key default take = optional entries' key default take := by
  rw [optional, optional, lookup_eq_of_perm distinct reordered]

/-- Texts are taken out of a list of texts as they are. -/
theorem toListOf_toText (texts : List Text) : toListOf toText (.list (texts.map .text)) = .ok texts := by
  have all (index : Nat) : Checked.all index ((texts.map Value.text).map toText) = .ok texts := by
    induction texts generalizing index with
    | nil => rfl
    | cons t rest ih =>
      rw [List.map_cons, List.map_cons, Checked.all, ih]
      rfl
  exact all 0

end Value

namespace Config

variable {config : Config} {v : Value} {entries entries' : List (Text × Value)} {items : List Value}
  {taken : List Text} {fault : Fault}

/-- What is written names an extension of some dialect, up to its case and the leading dot. -/
def IsExtension (written : Text) : Prop := normalizeExtension written ∈ Dialect.supportedExtensions

/-- What an item that names no extension comes to. -/
inductive Offends : Value → Fault → Prop where
  | notText {item : Value} (other : ∀ written, item ≠ .text written) : Offends item .extensionsNotTexts
  | unsupported {written : Text} (unknown : ¬ IsExtension written) :
      Offends (.text written) (.issues [⟨[.name "extensions"], .unsupportedExtension written⟩])

theorem takeExtensions_of_offends {item : Value} (offends : Offends item fault) (rest : List Value) :
    takeExtensions (item :: rest) = .error fault := by
  cases offends with
  | notText other =>
    cases item with
    | text written => exact absurd rfl (other written)
    | _ => rfl
  | unsupported unknown => exact if_neg fun listed => unknown (List.contains_iff_mem.mp listed)

/-- Extensions at the beginning are kept, and the rest decides. -/
theorem takeExtensions_append {written : List Text} (all : ∀ w ∈ written, IsExtension w) (rest : List Value) :
    takeExtensions (written.map .text ++ rest) =
      (takeExtensions rest).map (written.map normalizeExtension ++ ·) := by
  induction written with
  | nil =>
    rw [List.map_nil, List.nil_append]
    cases takeExtensions rest <;> rfl
  | cons w written ih =>
    obtain ⟨supported, all⟩ := List.forall_mem_cons.mp all
    have taken : takeExtensions (.text w :: (written.map .text ++ rest)) =
        (takeExtensions (written.map .text ++ rest)).map (normalizeExtension w :: ·) :=
      if_pos (List.contains_iff_mem.mpr supported)
    rw [List.map_cons, List.cons_append, taken, ih all]
    cases takeExtensions rest <;> rfl

/-- Either all items name extensions, or there is a first one that does not. -/
theorem extensions_or_offends (items : List Value) :
    (∃ written : List Text, items = written.map .text ∧ ∀ w ∈ written, IsExtension w) ∨
      ∃ (written : List Text) (item : Value) (rest : List Value) (fault : Fault),
        items = written.map .text ++ item :: rest ∧ (∀ w ∈ written, IsExtension w) ∧ Offends item fault := by
  induction items with
  | nil => exact .inl ⟨[], rfl, by simp⟩
  | cons item rest ih =>
    by_cases named : ∃ w, item = .text w ∧ IsExtension w
    · obtain ⟨w, rfl, supported⟩ := named
      rcases ih with ⟨written, rfl, all⟩ | ⟨written, item, behind, fault, rfl, all, offends⟩
      · exact .inl ⟨w :: written, rfl, List.forall_mem_cons.mpr ⟨supported, all⟩⟩
      · exact .inr ⟨w :: written, item, behind, fault, rfl, List.forall_mem_cons.mpr ⟨supported, all⟩, offends⟩
    · have offends : ∃ fault, Offends item fault := by
        by_cases text : ∃ w, item = .text w
        · obtain ⟨w, rfl⟩ := text
          exact ⟨_, .unsupported fun supported => named ⟨w, rfl, supported⟩⟩
        · exact ⟨_, .notText fun w same => text ⟨w, same⟩⟩
      obtain ⟨fault, offends⟩ := offends
      exact .inr ⟨[], item, rest, fault, rfl, by simp, offends⟩

theorem takeExtensions_of_extensions {written : List Text} (all : ∀ w ∈ written, IsExtension w) :
    takeExtensions (written.map .text) = .ok (written.map normalizeExtension) := by
  have whole := takeExtensions_append all []
  rw [List.append_nil] at whole
  simp [whole, takeExtensions, Except.map]

theorem takeExtensions_of_first {written : List Text} {item : Value} (all : ∀ w ∈ written, IsExtension w)
    (offends : Offends item fault) (rest : List Value) :
    takeExtensions (written.map .text ++ item :: rest) = .error fault := by
  rw [takeExtensions_append all, takeExtensions_of_offends offends]
  rfl

/-- A list is accepted if all its items name extensions, and these are kept in their order. -/
theorem takeExtensions_eq_ok_iff :
    takeExtensions items = .ok taken ↔
      ∃ written : List Text, items = written.map .text ∧ (∀ w ∈ written, IsExtension w) ∧
        taken = written.map normalizeExtension := by
  constructor
  · intro accepted
    rcases extensions_or_offends items with ⟨written, rfl, all⟩ | ⟨written, item, rest, fault, rfl, all, offends⟩
    · rw [takeExtensions_of_extensions all] at accepted
      cases accepted
      exact ⟨written, rfl, all, rfl⟩
    · rw [takeExtensions_of_first all offends] at accepted
      cases accepted
  · rintro ⟨written, rfl, all, rfl⟩
    exact takeExtensions_of_extensions all

/-- A list is refused for its first item that names no extension, whatever follows it. -/
theorem takeExtensions_eq_error_iff :
    takeExtensions items = .error fault ↔
      ∃ (written : List Text) (item : Value) (rest : List Value), items = written.map .text ++ item :: rest ∧
        (∀ w ∈ written, IsExtension w) ∧ Offends item fault := by
  constructor
  · intro refused
    rcases extensions_or_offends items with ⟨written, rfl, all⟩ | ⟨written, item, rest, other, rfl, all, offends⟩
    · rw [takeExtensions_of_extensions all] at refused
      cases refused
    · rw [takeExtensions_of_first all offends] at refused
      cases refused
      exact ⟨written, item, rest, rfl, all, offends⟩
  · rintro ⟨written, item, rest, rfl, all, offends⟩
    exact takeExtensions_of_first all offends rest

def toValue (config : Config) : Value :=
  .table [("max_depth", .int config.maxDepth), ("include", .list (config.includePatterns.map .text)),
    ("exclude", .list (config.excludePatterns.map .text)),
    ("extensions", .list (config.extensions.map .text)), ("nested_gitignore", .bool config.nestedIgnore)]

theorem normalizeExtension_of_supported {extension : Text} (member : extension ∈ Dialect.supportedExtensions) :
    normalizeExtension extension = extension := by
  have all : Dialect.supportedExtensions.all (fun e => normalizeExtension e = e) = true := by decide +kernel
  simpa using List.all_eq_true.mp all extension member

theorem takeExtensions_of_supported (supported : ∀ e ∈ taken, e ∈ Dialect.supportedExtensions) :
    takeExtensions (taken.map .text) = .ok taken := by
  have fixed : ∀ e ∈ taken, normalizeExtension e = e := fun e member =>
    normalizeExtension_of_supported (supported e member)
  refine takeExtensions_eq_ok_iff.mpr ⟨taken, rfl, ?_, ?_⟩
  · intro e member
    rw [IsExtension, fixed e member]
    exact supported e member
  · rw [List.map_congr_left fixed, List.map_id']

theorem ofValue_toValue (supported : ∀ e ∈ config.extensions, e ∈ Dialect.supportedExtensions) :
    ofValue config.toValue = .ok config := by
  refine ofValue_eq_ok_iff.mpr ⟨_, rfl, ?_⟩
  constructor
  · rfl
  · exact mapError_ok_iff.mpr (Value.toListOf_toText config.includePatterns)
  · exact mapError_ok_iff.mpr (Value.toListOf_toText config.excludePatterns)
  · exact takeExtensions_of_supported supported
  · rfl
  · rfl

theorem extensionsOf_eq_of_perm (distinct : (entries.map Prod.fst).Nodup) (reordered : entries.Perm entries') :
    extensionsOf entries = extensionsOf entries' := by
  rw [extensionsOf, extensionsOf, Value.lookup_eq_of_perm distinct reordered]

theorem unknownEntries_alike (reordered : entries.Perm entries') :
    Checked.Alike (unknownEntries entries) (unknownEntries entries') := by
  -- The unknown keys are reordered too, so there are none in both tables or in neither.
  have unknown := (reordered.map Prod.fst).filter fun key => !keys.contains key
  rw [unknownEntries, unknownEntries]
  cases found : (entries.map Prod.fst).filter fun key => !keys.contains key with
  | nil =>
    rw [found] at unknown
    rw [List.nil_perm.mp unknown]
    exact .ok ()
  | cons key rest =>
    rw [found] at unknown
    cases found' : (entries'.map Prod.fst).filter fun key => !keys.contains key with
    | nil =>
      rw [found'] at unknown
      cases List.perm_nil.mp unknown
    | cons key' rest' =>
      rw [found'] at unknown
      exact .error (unknown.map _)

theorem assemble_alike (distinct : (entries.map Prod.fst).Nodup) (reordered : entries.Perm entries')
    (extensions : Checked (List Text)) :
    Checked.Alike (assemble extensions entries) (assemble extensions entries') := by
  have same {key : Text} {α : Type} (default : α) (take : Value → Checked α) :
      Checked.Alike (Value.optional entries key default take) (Value.optional entries' key default take) := by
    rw [Value.optional_eq_of_perm distinct reordered]
    exact .refl _
  apply Checked.Alike.map
  refine .both (same _ _) (.both (same _ _) (.both (same _ _) (.both (.refl _) (.both (same _ _) ?_))))
  exact unknownEntries_alike reordered

/-- The same configuration, the same issues in some order, or in both cases extensions that are no texts. -/
inductive SameOutcome : Except Fault Config → Except Fault Config → Prop where
  | accepted (config : Config) : SameOutcome (.ok config) (.ok config)
  | refused {issues issues' : List Issue} (same : issues.Perm issues') :
      SameOutcome (.error (.issues issues)) (.error (.issues issues'))
  | notTexts : SameOutcome (.error .extensionsNotTexts) (.error .extensionsNotTexts)

theorem sameOutcome_of_alike {first second : Checked Config} (alike : Checked.Alike first second) :
    SameOutcome (first.mapError Fault.issues) (second.mapError Fault.issues) := by
  cases alike with
  | ok config => exact .accepted config
  | error same => exact .refused same

theorem ofValue_of_perm (distinct : (entries.map Prod.fst).Nodup) (reordered : entries.Perm entries') :
    SameOutcome (ofValue (.table entries)) (ofValue (.table entries')) := by
  simp only [ofValue, ← extensionsOf_eq_of_perm distinct reordered]
  split
  · exact .notTexts
  · exact sameOutcome_of_alike (assemble_alike distinct reordered _)
  · exact sameOutcome_of_alike (assemble_alike distinct reordered _)

/-- A fault of the extensions in the outcome of the whole. One that is an issue stands among all other issues. -/
inductive Fails : Fault → Except Fault Config → Prop where
  | notTexts : Fails .extensionsNotTexts (.error .extensionsNotTexts)
  | issues {list all : List Issue} (part : list ⊆ all) : Fails (.issues list) (.error (.issues all))

theorem fails_of_extensionsOf (failed : extensionsOf entries = .error fault) :
    Fails fault (ofValue (.table entries)) := by
  cases fault with
  | extensionsNotTexts =>
    simp only [ofValue, failed]
    exact .notTexts
  | issues list =>
    have mentions : Checked.Mentions list (.error list : Checked (List Text)) := ⟨list, rfl, List.Subset.refl list⟩
    have assembled : Checked.Mentions list (assemble (.error list) entries) :=
      Checked.Mentions.map (.both_right (.both_right (.both_right (mentions.both_left _) _) _) _) _
    obtain ⟨all, refused, part⟩ := assembled
    simp only [ofValue, failed, refused]
    exact .issues part

/-- Normal forms. What was accepted, written out in full, is accepted again and unchanged. Reordering the keys of a
table changes neither what it is accepted as nor for what it is refused. The extensions of a table are accepted
if all items name one, and come out with their dots and in lower case, one for each item and in their order;
they are refused for the first item that names none, and so is the table. -/
theorem ofValue_normal (v : Value) :
    (∀ config, ofValue v = .ok config → ofValue config.toValue = .ok config) ∧
      (∀ entries entries', v = .table entries → (entries.map Prod.fst).Nodup → entries.Perm entries' →
        SameOutcome (ofValue v) (ofValue (.table entries'))) ∧
      ∀ entries items, v = .table entries → entries.lookup ("extensions" : Text) = some (.list items) →
        (∀ taken, takeExtensions items = .ok taken ↔ ∃ written : List Text, items = written.map .text ∧
          (∀ w ∈ written, IsExtension w) ∧ taken = written.map normalizeExtension) ∧
        (∀ fault, takeExtensions items = .error fault ↔ ∃ (written : List Text) (item : Value) (rest : List Value),
          items = written.map .text ++ item :: rest ∧ (∀ w ∈ written, IsExtension w) ∧ Offends item fault) ∧
        (∀ config, ofValue v = .ok config → takeExtensions items = .ok config.extensions) ∧
        ∀ fault, takeExtensions items = .error fault → Fails fault (ofValue v) := by
  refine ⟨?_, ?_, ?_⟩
  · intro config accepted
    exact ofValue_toValue (ofValue_supported accepted)
  · rintro entries entries' rfl distinct reordered
    exact ofValue_of_perm distinct reordered
  · rintro entries items rfl listed
    have asked : extensionsOf entries = takeExtensions items := by rw [extensionsOf, listed]
    refine ⟨fun _ => takeExtensions_eq_ok_iff, fun _ => takeExtensions_eq_error_iff, ?_, ?_⟩
    · intro config accepted
      obtain ⟨stating, same, stated⟩ := ofValue_eq_ok_iff.mp accepted
      cases same
      rw [← asked, stated.extensions]
    · intro fault failed
      exact fails_of_extensionsOf (asked.trans failed)

def roundabout : List (Text × Value) :=
  [("nested_gitignore", .text "Yes"), ("extensions", .list [.text "JS", .text ".Tsx"]),
    ("max_depth", .text " +1_0.0 ")]

def hopeless : List (Text × Value) :=
  [("depth", .null), ("extensions", .list [.text "js", .text "Py", .int 3]), ("max_depth", .int (-1)), ("root", .null)]

theorem ofValue_normal_roundabout :
    ofValue (.table roundabout) = .ok { maxDepth := 10, extensions := [".js", ".tsx"], nestedIgnore := true } ∧
      ofValue (toValue { maxDepth := 10, extensions := [".js", ".tsx"], nestedIgnore := true }) =
        .ok { maxDepth := 10, extensions := [".js", ".tsx"], nestedIgnore := true } ∧
      (hopeless.map Prod.fst).Nodup ∧
      SameOutcome (ofValue (.table hopeless)) (ofValue (.table hopeless.reverse)) ∧
      Fails (.issues [⟨[.name "extensions"], .unsupportedExtension "Py"⟩]) (ofValue (.table hopeless)) := by
  have accepted : ofValue (.table roundabout) =
      .ok { maxDepth := 10, extensions := [".js", ".tsx"], nestedIgnore := true } := by decide +kernel
  have distinct : (hopeless.map Prod.fst).Nodup := by decide
  have first : takeExtensions [.text "js", .text "Py", .int 3] =
      .error (.issues [⟨[.name "extensions"], .unsupportedExtension "Py"⟩]) := by decide +kernel
  obtain ⟨again, _, _⟩ := ofValue_normal (.table roundabout)
  obtain ⟨_, reordered, decided⟩ := ofValue_normal (.table hopeless)
  obtain ⟨_, _, _, fails⟩ := decided hopeless _ rfl rfl
  exact ⟨accepted, again _ accepted, distinct,
    reordered hopeless _ rfl distinct (List.reverse_perm hopeless).symm, fails _ first⟩

end Config
end ImportDepth
