import ImportDepth.Proofs.CommandLine.Check
import ImportDepth.Proofs.Toml.LongRun

/-! What becomes of every content of a configuration file. Bytes that are no UTF-8 and integers of too many
digits leave `check` without an answer; all other faults are told about, in a message that names the file. -/
namespace ImportDepth

namespace Config

variable {fs : FileSystem} {root : Path} {error : LoadError} {said : Text}

theorem LoadError.file_of_message? {file : Path}
    (about : error = .malformed file ∨ ∃ fault, error = .invalid file fault)
    (told : error.message? = some said) : file.text <:+: said := by
  rcases about with rfl | ⟨fault, rfl⟩
  · cases told
    exact (List.suffix_append _ _).isInfix
  · cases fault with
    | extensionsNotTexts =>
      cases told
      exact ⟨"Invalid config in ", ": " ++ Fault.extensionsMessage, by simp only [List.append_assoc]⟩
    | issues =>
      cases told
      exact (List.suffix_append _ _).isInfix

/-- A message about a configuration file names the file. -/
theorem file_of_message? (failed : load fs root = .error error) (told : error.message? = some said) :
    Path.text (root ++ [fileName]) <:+: said := by
  rcases load_cases fs root with ⟨_, same⟩ |
    ⟨content, read, ⟨_, same⟩ | ⟨text, decoded, ⟨_, same⟩ | ⟨_, same⟩ | ⟨value, _, same⟩⟩⟩
  · cases failed.symm.trans same
  · cases failed.symm.trans same
    cases told
  · cases failed.symm.trans same
    exact LoadError.file_of_message? (.inl rfl) told
  · cases failed.symm.trans same
    cases told
  · rw [same] at failed
    cases taken : ofValue value with
    | ok config => simp [taken] at failed
    | error fault =>
      rw [taken, mapError_error] at failed
      exact LoadError.file_of_message? (.inr ⟨fault, (Except.error.inj failed).symm⟩) told

/-- A file that is no UTF-8 is not loaded. -/
theorem load_of_undecoded {content : Bytes} (read : fs.read? (root ++ [fileName]) = some content)
    (undecoded : ¬ ∃ text : Text, text.IsScalar ∧ content = Utf8.encode text) :
    load fs root = .error .notText := by
  cases decoded : Utf8.decode? content with
  | none => simp [load, read, ofBytes, decoded]
  | some text =>
    obtain ⟨same, scalar⟩ := Utf8.decode?_eq_some_iff.mp decoded
    exact absurd ⟨text, scalar, same⟩ undecoded

end Config

namespace CommandLine

open Config

variable {fs : FileSystem} {root : Path} {maxDepth : Option Int} {format : Format} {error : LoadError}
  {said : Text}

theorem check_of_message? (failed : load fs root = .error error) (told : error.message? = some said) :
    check fs root maxDepth format = .ok (refusal said) := by
  simp only [check, failed, told]

theorem check_of_no_message (failed : load fs root = .error error) (untold : error.message? = none) :
    check fs root maxDepth format = .error (.config error) := by
  simp only [check, failed, untold]

/-- What becomes of a configuration file, whatever it holds. Without one, all is as by default. A file that
is no UTF-8 leaves `check` without an answer. Any other file is loaded, or `check` answers with exit code 2
and a message that names the file; except that it may be left without an answer if the file holds a run of
more digits than are read, as it is by every file that states such a number under a bare key. -/
theorem check_configuration_exact (fs : FileSystem) (root : Path) (maxDepth : Option Int) (format : Format) :
    (fs.read? (root ++ [fileName]) = none → load fs root = .ok {}) ∧
    ∀ content, fs.read? (root ++ [fileName]) = some content →
      ((¬ ∃ text : Text, text.IsScalar ∧ content = Utf8.encode text) →
        load fs root = .error .notText ∧ check fs root maxDepth format = .error (.config .notText)) ∧
      ∀ text : Text, text.IsScalar → content = Utf8.encode text →
        ((∃ config, load fs root = .ok config) ∨
          (∃ error said, load fs root = .error error ∧ Path.text (root ++ [fileName]) <:+: said ∧
            check fs root maxDepth format = .ok ⟨2, [], "error: " ++ said ++ "\n"⟩) ∨
          Toml.HasLongRun text ∧ load fs root = .error .oversizedInteger ∧
            check fs root maxDepth format = .error (.config .oversizedInteger)) ∧
        ∀ key digits, Toml.IsBareKey key → Toml.IsLong digits → text = key ++ (" = " ++ digits) →
          load fs root = .error .oversizedInteger := by
  constructor
  · intro absent
    simp [load, absent]
  · intro content read
    refine ⟨fun undecoded => ?_, fun text scalar same => ⟨?_, ?_⟩⟩
    · have failed := load_of_undecoded read undecoded
      exact ⟨failed, check_of_no_message failed rfl⟩
    · have decoded : Utf8.decode? content = some text := Utf8.decode?_eq_some_iff.mpr ⟨same, scalar⟩
      by_cases oversized : Oversized fs root
      · right; right
        have failed := load_of_oversized oversized
        obtain ⟨content', text', read', decoded', large⟩ := oversized
        cases read.symm.trans read'
        cases decoded.symm.trans decoded'
        exact ⟨Toml.hasLongRun_of_read large, failed, check_of_no_message failed rfl⟩
      · have decodes : Decodes fs root := by
          intro content' read'
          cases read.symm.trans read'
          rw [decoded]
          exact Option.some_ne_none text
        cases loaded : load fs root with
        | ok config => exact .inl ⟨config, rfl⟩
        | error error =>
          right; left
          obtain ⟨said, told⟩ := message?_of_load decodes oversized loaded
          exact ⟨error, said, rfl, file_of_message? loaded told, check_of_message? loaded told⟩
    · rintro key digits proper integer rfl
      exact load_of_oversized (oversized_of_long proper integer (read.trans (congrArg some same)))

theorem check_configuration_exact_broken :
    (configured [0xFF]).read? [fileName] = some [0xFF] ∧
    (¬ ∃ text : Text, text.IsScalar ∧ [0xFF] = Utf8.encode text) ∧
    load (configured [0xFF]) [] = .error .notText ∧
    check (configured [0xFF]) [] none .text = .error (.config .notText) := by
  have held : (configured [0xFF]).read? [fileName] = some [0xFF] := rfl
  have undecoded : ¬ ∃ text : Text, text.IsScalar ∧ [0xFF] = Utf8.encode text := by
    rintro ⟨text, scalar, same⟩
    have decoded := Utf8.decode?_eq_some_iff.mpr ⟨same, scalar⟩
    have refused : Utf8.decode? [0xFF] = none := by decide
    cases refused.symm.trans decoded
  obtain ⟨_, present⟩ := check_configuration_exact (configured [0xFF]) [] none .text
  exact ⟨held, undecoded, (present [0xFF] held).1 undecoded⟩

end CommandLine
end ImportDepth
