import ImportDepth.Proofs.Specifier
import ImportDepth.Proofs.Utf8.Ascii

/-! What reading does to bytes that may be broken. ASCII bytes are kept one by one, and every run of other bytes
becomes at least one other code point, however it is grouped. So adjacent ASCII stays adjacent and nothing else
becomes so: a pattern of ASCII stands in the text at as many places as in the bytes. -/
namespace ImportDepth.Utf8

/-- The text keeps the ASCII bytes, and in place of every run of others it has other code points. -/
inductive Regrouped : Bytes → Text → Prop where
  | nil : Regrouped [] []
  | ascii {c : CodePoint} {bytes : Bytes} {t : Text} (small : c.val < 0x80) (rest : Regrouped bytes t) :
      Regrouped (.ofNat c.val :: bytes) (c :: t)
  | other {run bytes : Bytes} {read t : Text} (nonempty : run ≠ [] ∧ read ≠ [])
      (high : ∀ b ∈ run, 0x80 ≤ b.toNat) (large : ∀ c ∈ read, 0x80 ≤ c.val) (rest : Regrouped bytes t) :
      Regrouped (run ++ bytes) (read ++ t)

variable {bytes : Bytes} {t pattern : Text} {c : CodePoint}

theorem byte_inj {d : CodePoint} (small : c.val < 0x80) (small' : d.val < 0x80) :
    UInt8.ofNat c.val = UInt8.ofNat d.val ↔ c = d := by
  constructor
  · intro same
    have numbers := congrArg UInt8.toNat same
    rw [toNat_byte (by omega), toNat_byte (by omega)] at numbers
    exact Fin.ext numbers
  · rintro rfl
    rfl

theorem byte_not_mem {run : Bytes} (small : c.val < 0x80) (high : ∀ b ∈ run, 0x80 ≤ b.toNat) :
    UInt8.ofNat c.val ∉ run := by
  intro member
  have above := high _ member
  rw [toNat_byte (by omega)] at above
  omega

-- A bounded quantifier over code points would be decided by trying all of them.
theorem ascii_of_all (all : t.all (·.val < 0x80) = true) : ∀ c ∈ t, c.val < 0x80 := by
  simpa using all

namespace Regrouped

theorem append {further : Bytes} {u : Text} (first : Regrouped bytes t) (second : Regrouped further u) :
    Regrouped (bytes ++ further) (t ++ u) := by
  induction first with
  | nil => exact second
  | ascii small _ ih => exact .ascii small ih
  | other nonempty high large _ ih =>
    rw [List.append_assoc, List.append_assoc]
    exact .other nonempty high large ih

theorem of_high {run : Bytes} (high : ∀ b ∈ run, 0x80 ≤ b.toNat) : Regrouped run (decodeLossy run) := by
  by_cases empty : run = []
  · rw [empty]
    exact .nil
  · have large : ∀ c ∈ decodeLossy run, 0x80 ≤ c.val := by
      intro c member
      rw [← Nat.not_lt]
      intro small
      exact byte_not_mem small high ((mem_decodeLossy_iff small).mp member)
    have alone := other ⟨empty, decodeLossy_ne_nil empty⟩ high large .nil
    rwa [List.append_nil, List.append_nil] at alone

/-- Bytes are read on from a run that no ASCII byte has ended yet. -/
theorem of_decodeLossy_append (run bytes : Bytes) (high : ∀ b ∈ run, 0x80 ≤ b.toNat) :
    Regrouped (run ++ bytes) (decodeLossy (run ++ bytes)) := by
  induction bytes generalizing run with
  | nil =>
    rw [List.append_nil]
    exact of_high high
  | cons b rest ih =>
    by_cases small : b.toNat < 0x80
    · have byte : b = .ofNat (⟨b.toNat, by omega⟩ : CodePoint).val := UInt8.ofNat_toNat.symm
      rw [byte, decodeLossy_append_of_ascii small]
      apply (of_high high).append
      apply ascii small
      exact ih [] (by simp)
    · have longer := ih (run ++ [b]) (by simpa [or_imp, forall_and] using ⟨high, Nat.le_of_not_lt small⟩)
      rwa [List.append_assoc, List.singleton_append] at longer

theorem of_decodeLossy (bytes : Bytes) : Regrouped bytes (decodeLossy bytes) :=
  of_decodeLossy_append [] bytes (by simp)

theorem prefix_iff (ascii : ∀ c ∈ pattern, c.val < 0x80) (regrouped : Regrouped bytes t) :
    pattern.map (fun c => UInt8.ofNat c.val) <+: bytes ↔ pattern <+: t := by
  induction pattern generalizing bytes t with
  | nil => exact iff_of_true List.nil_prefix List.nil_prefix
  | cons c pattern ih =>
    obtain ⟨small, others⟩ := List.forall_mem_cons.mp ascii
    rw [List.map_cons]
    cases regrouped with
    | nil => simp
    | ascii small' rest =>
      rw [List.cons_prefix_cons, List.cons_prefix_cons, byte_inj small small', ih others rest]
    | other nonempty high large =>
      obtain ⟨b, run, rfl⟩ := List.exists_cons_of_ne_nil nonempty.1
      obtain ⟨d, read, rfl⟩ := List.exists_cons_of_ne_nil nonempty.2
      rw [List.cons_append, List.cons_append, List.cons_prefix_cons, List.cons_prefix_cons]
      constructor
      · rintro ⟨rfl, _⟩
        exact absurd List.mem_cons_self (byte_not_mem small high)
      · rintro ⟨rfl, _⟩
        have above := large c List.mem_cons_self
        omega

theorem isPrefixOf_eq (ascii : ∀ c ∈ pattern, c.val < 0x80) (regrouped : Regrouped bytes t) :
    pattern.isPrefixOf t = (pattern.map fun c => UInt8.ofNat c.val).isPrefixOf bytes := by
  rw [Bool.eq_iff_iff, List.isPrefixOf_iff_prefix, List.isPrefixOf_iff_prefix, regrouped.prefix_iff ascii]

/-- Reading neither makes nor hides a place where a pattern of ASCII stands. -/
theorem places_eq (ascii : ∀ d ∈ c :: pattern, d.val < 0x80) (regrouped : Regrouped bytes t) :
    places (c :: pattern) t = places ((c :: pattern).map fun c => UInt8.ofNat c.val) bytes := by
  have small := ascii c List.mem_cons_self
  induction regrouped with
  | nil => rfl
  | ascii small' rest ih =>
    rw [places_cons, places_cons, ih, (Regrouped.ascii small' rest).isPrefixOf_eq ascii]
  | @other run _ read _ _ high large _ ih =>
    have absent : c ∉ read := fun member => absurd (large c member) (by omega)
    rw [places_append_of_not_mem absent, ih, List.map_cons,
      places_append_of_not_mem (byte_not_mem small high)]

end Regrouped

end ImportDepth.Utf8
