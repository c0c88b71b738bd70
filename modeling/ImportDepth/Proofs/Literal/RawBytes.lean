import ImportDepth.Proofs.Legible
import ImportDepth.Proofs.Utf8.Regrouped

/-! Literals of raw fragments, whose bytes may be broken and whose borders may part a sequence. The raw bytes
alone decide whether the value climbs too far. -/
namespace ImportDepth

namespace Node

structure IsRaw (n : Node) : Prop where
  kind : n.kind = "string"
  fragments : ∀ piece ∈ n.namedChildren,
    piece.kind ≠ "escape_sequence" ∧ piece.kind ≠ "html_character_reference"

def rawBytes (n : Node) : Bytes := n.namedChildren.flatMap fun piece => piece.text.getD []

theorem piece_of_raw {piece : Node}
    (raw : piece.kind ≠ "escape_sequence" ∧ piece.kind ≠ "html_character_reference") :
    Literal.piece piece = .ok (Utf8.decodeLossy (piece.text.getD [])) := by
  rw [Literal.piece, if_neg raw.1, if_neg raw.2, decodedText?]
  cases piece.text <;> rfl

theorem IsRaw.regrouped {n : Node} (raw : n.IsRaw) :
    ∃ value, n.literal? = .ok (some value) ∧ Utf8.Regrouped n.rawBytes value := by
  have read := mapM_ok fun piece member => piece_of_raw (raw.fragments piece member)
  refine ⟨_, literal?_eq_some_iff.mpr ⟨raw.kind, _, read, rfl⟩, ?_⟩
  unfold rawBytes
  induction n.namedChildren with
  | nil => exact .nil
  | cons piece rest ih =>
    rw [List.flatMap_cons, List.map_cons, List.flatten_cons]
    exact (Utf8.Regrouped.of_decodeLossy _).append ih

end Node

namespace Specifier

/-- The raw bytes decide: the value of a literal climbs as often as `../` stands in its bytes, it is relative
exactly if the first of them is a dot, and no limit is judged by anything else. -/
theorem classify_of_rawBytes {n : Node} (raw : n.IsRaw) :
    ∃ value, n.literal? = .ok (some value) ∧
      parentSegments value = places [0x2E, 0x2E, 0x2F] n.rawBytes ∧
      (isRelative value = true ↔ n.rawBytes.head? = some 0x2E) ∧
      ∀ limit : Int, classify value limit =
        if n.rawBytes.head? = some 0x2E ∧ limit < places [0x2E, 0x2E, 0x2F] n.rawBytes then
          some ⟨value, limit, places [0x2E, 0x2E, 0x2F] n.rawBytes⟩
        else none := by
  obtain ⟨value, known, regrouped⟩ := raw.regrouped
  have climbs : parentSegments value = places [0x2E, 0x2E, 0x2F] n.rawBytes := by
    rw [parentSegments_eq_occurrences, climb_eq]
    exact regrouped.places_eq (Utf8.ascii_of_all (by decide))
  have relative : isRelative value = true ↔ n.rawBytes.head? = some 0x2E := by
    have dot : ("." : Text) = [CodePoint.ofChar '.'] := by decide
    rw [isRelative, dot, regrouped.isPrefixOf_eq (Utf8.ascii_of_all (by decide))]
    have byte : [CodePoint.ofChar '.'].map (fun c => UInt8.ofNat c.val) = [0x2E] := by decide
    rw [byte]
    cases n.rawBytes with
    | nil => simp
    | cons b rest => simpa [List.isPrefixOf] using eq_comm
  refine ⟨value, known, climbs, relative, ?_⟩
  intro limit
  rw [classify, climbs]
  simp only [relative]

/-- Three fragments: a dot before a sequence that the border breaks off, a climb between broken bytes, and a
climb that the border parts. -/
def brokenFragments : Node where
  kind := "string"
  children := [{ kind := "string_fragment", text := some [0x2E, 0xE2] },
    { kind := "string_fragment", text := some [0x2E, 0x2E, 0x2F, 0xFF, 0xC0, 0xAF, 0x2E] },
    { kind := "string_fragment", text := some [0x2E, 0x2F] }]

theorem classify_of_rawBytes_broken :
    brokenFragments.IsRaw ∧ ∃ value, brokenFragments.literal? = .ok (some value) ∧ parentSegments value = 2 ∧
      isRelative value = true ∧ classify value 1 = some ⟨value, 1, 2⟩ ∧ classify value 2 = none := by
  have raw : brokenFragments.IsRaw := ⟨rfl, by simp [brokenFragments, Node.namedChildren]⟩
  have bytes : places [0x2E, 0x2E, 0x2F] brokenFragments.rawBytes = 2 := by decide
  have first : brokenFragments.rawBytes.head? = some 0x2E := by decide
  obtain ⟨value, known, climbs, relative, verdict⟩ := classify_of_rawBytes raw
  refine ⟨raw, value, known, climbs.trans bytes, relative.mpr first, ?_, ?_⟩
  · rw [verdict, bytes, if_pos ⟨first, by decide⟩]
  · rw [verdict, bytes, if_neg (by simp)]

end Specifier
end ImportDepth
