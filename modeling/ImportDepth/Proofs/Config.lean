import ImportDepth.Config.File
import ImportDepth.Proofs.Outcome
import ImportDepth.Proofs.Toml
import ImportDepth.Proofs.Utf8

/-! What loaded configurations hold, and why loading fails. An accepted configuration names supported
extensions only. Files that cannot be used are told about, except those that are no UTF-8 and those with an
integer of too many digits. -/
namespace ImportDepth

theorem Checked.both_eq_ok_iff {α β : Type} {first : Checked α} {second : Checked β} {a : α} {b : β} :
    both first second = .ok (a, b) ↔ first = .ok a ∧ second = .ok b := by
  cases first <;> cases second <;> simp [both]

namespace Config

variable {fs : FileSystem} {root : Path} {config : Config} {v : Value} {items : List Value}
  {entries : List (Text × Value)} {taken : List Text} {error : LoadError}

theorem takeExtensions_supported (accepted : takeExtensions items = .ok taken) :
    ∀ e ∈ taken, e ∈ Dialect.supportedExtensions := by
  induction items generalizing taken with
  | nil =>
    cases accepted
    simp
  | cons item rest ih =>
    unfold takeExtensions at accepted
    split at accepted
    · cases accepted
      simp
    · rename_i written more listed
      cases listed
      dsimp only at accepted
      split at accepted
      · rename_i supported
        obtain ⟨others, further, rfl⟩ := map_ok_iff.mp accepted
        intro e member
        rcases List.mem_cons.mp member with rfl | member
        · exact List.contains_iff_mem.mp supported
        · exact ih further e member
      · cases accepted
    · cases accepted

theorem extensionsOf_supported (accepted : extensionsOf entries = .ok taken) :
    ∀ e ∈ taken, e ∈ Dialect.supportedExtensions := by
  unfold extensionsOf at accepted
  split at accepted
  · cases accepted
    exact fun e member => member
  · exact takeExtensions_supported accepted
  · cases accepted

structure Stated (entries : List (Text × Value)) (config : Config) : Prop where
  maxDepth : Value.optional entries "max_depth" DepthRule.defaultLimit toLimit = .ok config.maxDepth
  includePatterns : Value.optional entries "include" [] (Value.toListOf Value.toText) =
    .ok config.includePatterns
  excludePatterns : Value.optional entries "exclude" [] (Value.toListOf Value.toText) =
    .ok config.excludePatterns
  extensions : extensionsOf entries = .ok config.extensions
  nestedIgnore : Value.optional entries "nested_gitignore" false Value.toBoolean = .ok config.nestedIgnore
  known : unknownEntries entries = .ok ()

theorem assemble_eq_ok_iff {extensions : Checked (List Text)} :
    assemble extensions entries = .ok config ↔
      Value.optional entries "max_depth" DepthRule.defaultLimit toLimit = .ok config.maxDepth ∧
      Value.optional entries "include" [] (Value.toListOf Value.toText) = .ok config.includePatterns ∧
      Value.optional entries "exclude" [] (Value.toListOf Value.toText) = .ok config.excludePatterns ∧
      extensions = .ok config.extensions ∧
      Value.optional entries "nested_gitignore" false Value.toBoolean = .ok config.nestedIgnore ∧
      unknownEntries entries = .ok () := by
  constructor
  · intro accepted
    obtain ⟨⟨maxDepth, included, excluded, extensions, nested, rest⟩, collected, rfl⟩ :=
      map_ok_iff.mp accepted
    simpa only [Checked.both_eq_ok_iff] using collected
  · intro stated
    refine map_ok_iff.mpr ⟨⟨config.maxDepth, config.includePatterns, config.excludePatterns,
      config.extensions, config.nestedIgnore, ()⟩, ?_, rfl⟩
    simpa only [Checked.both_eq_ok_iff] using stated

/-- A value is accepted as a configuration exactly if it is a table that states it. -/
theorem ofValue_eq_ok_iff :
    ofValue v = .ok config ↔ ∃ entries, v = .table entries ∧ Stated entries config := by
  constructor
  · intro accepted
    unfold ofValue at accepted
    split at accepted
    · rename_i entries
      dsimp only at accepted
      split at accepted
      · cases accepted
      · obtain ⟨_, _, _, failed, _⟩ := assemble_eq_ok_iff.mp (mapError_ok_iff.mp accepted)
        cases failed
      · rename_i taken asked
        obtain ⟨limit, included, excluded, same, nested, known⟩ :=
          assemble_eq_ok_iff.mp (mapError_ok_iff.mp accepted)
        cases same
        exact ⟨entries, rfl, limit, included, excluded, asked, nested, known⟩
    · cases accepted
  · rintro ⟨entries, rfl, limit, included, excluded, asked, nested, known⟩
    simp only [ofValue, asked]
    apply mapError_ok_iff.mpr
    exact assemble_eq_ok_iff.mpr ⟨limit, included, excluded, rfl, nested, known⟩

theorem toInteger_of_toLimit {n : Nat} (taken : toLimit v = .ok n) : v.toInteger = .ok (n : Int) := by
  obtain ⟨found, asked, kept⟩ := bind_ok_iff.mp taken
  cases found with
  | ofNat found =>
    cases kept
    exact asked
  | negSucc found => cases kept

/-- The limit is the integer that the entry stands for, or the default. -/
theorem Stated.integer (stated : Stated entries config) :
    Value.optional entries "max_depth" (DepthRule.defaultLimit : Int) Value.toInteger =
      .ok (config.maxDepth : Int) := by
  have limit := stated.maxDepth
  unfold Value.optional at limit ⊢
  split at limit
  · exact mapError_ok_iff.mpr (toInteger_of_toLimit (mapError_ok_iff.mp limit))
  · rw [← Except.ok.inj limit]

/-- An accepted configuration names supported extensions only. -/
theorem ofValue_supported (accepted : ofValue v = .ok config) :
    ∀ e ∈ config.extensions, e ∈ Dialect.supportedExtensions := by
  obtain ⟨entries, rfl, stated⟩ := ofValue_eq_ok_iff.mp accepted
  exact extensionsOf_supported stated.extensions

/-- What loading can come to, and from which contents of the file. -/
theorem load_cases (fs : FileSystem) (root : Path) :
    fs.read? (root ++ [fileName]) = none ∧ load fs root = .ok {} ∨
    ∃ content, fs.read? (root ++ [fileName]) = some content ∧
      (Utf8.decode? content = none ∧ load fs root = .error .notText ∨
      ∃ text, Utf8.decode? content = some text ∧
        (Toml.read text = .error .malformed ∧ load fs root = .error (.malformed (root ++ [fileName])) ∨
        Toml.read text = .error .oversizedInteger ∧ load fs root = .error .oversizedInteger ∨
        ∃ value, Toml.read text = .ok value ∧
          load fs root = (ofValue value).mapError (.invalid (root ++ [fileName])))) := by
  cases read : fs.read? (root ++ [fileName]) with
  | none => exact .inl ⟨rfl, by simp [load, read]⟩
  | some content =>
    refine .inr ⟨content, rfl, ?_⟩
    cases decoded : Utf8.decode? content with
    | none => exact .inl ⟨rfl, by simp [load, read, ofBytes, decoded]⟩
    | some text =>
      refine .inr ⟨text, rfl, ?_⟩
      cases done : Toml.read text with
      | error fault => cases fault <;> simp [load, read, ofBytes, decoded, done]
      | ok value => simp [load, read, ofBytes, decoded, done]

/-- What is loaded was accepted; a directory without a file has the configuration of an empty table. -/
theorem exists_ofValue_of_load (loaded : load fs root = .ok config) : ∃ v, ofValue v = .ok config := by
  rcases load_cases fs root with ⟨_, same⟩ |
    ⟨_, _, ⟨_, same⟩ | ⟨_, _, ⟨_, same⟩ | ⟨_, same⟩ | ⟨value, _, same⟩⟩⟩
  · cases loaded.symm.trans same
    exact ⟨.table [], rfl⟩
  · cases loaded.symm.trans same
  · cases loaded.symm.trans same
  · cases loaded.symm.trans same
  · exact ⟨value, mapError_ok_iff.mp (same.symm.trans loaded)⟩

theorem load_supported (loaded : load fs root = .ok config) :
    ∀ e ∈ config.extensions, e ∈ Dialect.supportedExtensions := by
  obtain ⟨v, accepted⟩ := exists_ofValue_of_load loaded
  exact ofValue_supported accepted

def Decodes (fs : FileSystem) (root : Path) : Prop :=
  ∀ content, fs.read? (root ++ [fileName]) = some content → Utf8.decode? content ≠ none

/-- The configuration file of a directory holds an integer with more digits than are read. -/
def Oversized (fs : FileSystem) (root : Path) : Prop :=
  ∃ content text, fs.read? (root ++ [fileName]) = some content ∧ Utf8.decode? content = some text ∧
    Toml.read text = .error .oversizedInteger

theorem load_of_oversized (oversized : Oversized fs root) : load fs root = .error .oversizedInteger := by
  obtain ⟨content, text, read, decoded, failed⟩ := oversized
  simp [load, read, ofBytes, decoded, failed]

theorem Oversized.decodes (oversized : Oversized fs root) : Decodes fs root := by
  obtain ⟨content, text, read, decoded, _⟩ := oversized
  intro other same
  cases read.symm.trans same
  simp [decoded]

/-- A file that states a long integer under a bare key is oversized. -/
theorem oversized_of_long {key digits : Text} (proper : Toml.IsBareKey key) (integer : Toml.IsLong digits)
    (read : fs.read? (root ++ [fileName]) = some (Utf8.encode (key ++ (" = " ++ digits)))) :
    Oversized fs root := by
  have decoded := Utf8.decode?_encode_of_ascii (Toml.ascii_of_statement proper integer.number)
  exact ⟨_, _, read, decoded, Toml.read_of_long proper integer⟩

/-- Loading fails with a message, unless the file is no UTF-8 or holds an oversized integer. -/
theorem message?_of_load (decodes : Decodes fs root) (sized : ¬ Oversized fs root)
    (failed : load fs root = .error error) : ∃ said, error.message? = some said := by
  rcases load_cases fs root with ⟨_, same⟩ |
    ⟨content, read, ⟨undecoded, _⟩ | ⟨text, decoded, ⟨_, same⟩ | ⟨large, _⟩ | ⟨value, _, same⟩⟩⟩
  · cases failed.symm.trans same
  · exact absurd undecoded (decodes content read)
  · cases failed.symm.trans same
    exact ⟨_, rfl⟩
  · exact absurd ⟨content, text, read, decoded, large⟩ sized
  · rw [same] at failed
    cases taken : ofValue value with
    | ok config => simp [taken] at failed
    | error fault =>
      simp only [taken, mapError_error, Except.error.injEq] at failed
      cases fault <;> exact ⟨_, by rw [← failed]; rfl⟩

end Config
end ImportDepth
