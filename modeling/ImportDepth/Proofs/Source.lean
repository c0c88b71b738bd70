import ImportDepth.Proofs.Legible
import ImportDepth.Source.Parse

/-! Every source can be read. A character reference in a source is short, so that it has few digits, and no
literal that was parsed is illegible. -/
namespace ImportDepth

namespace Utf8

/-- How many code points the bytes read so far may still become. -/
def State.owes : State → Nat
  | .start => 0
  | .within .. => 1

theorem State.owes_le_one (state : State) : state.owes ≤ 1 := by
  cases state <;> simp [owes]

theorem length_first_le (b : UInt8) : (first b).1.length + (first b).2.owes ≤ 1 := by
  unfold first
  cases lead b with
  | single c => simp [State.owes]
  | opens next => simpa using next.owes_le_one
  | invalid => simp [State.owes]

theorem length_step_le (state : State) (b : UInt8) :
    (step state b).1.length + (step state b).2.owes ≤ state.owes + 1 := by
  have begun := length_first_le b
  cases state with
  | start => simpa [step, State.owes] using begun
  | within owed low high value =>
    by_cases continues : low ≤ b.toNat ∧ b.toNat ≤ high
    · simp only [step, if_pos continues]
      split
      · cases CodePoint.ofNat? (value * 64 + (b.toNat - 0x80)) <;> simp [State.owes]
      · simp [State.owes]
    · have inside : (State.within owed low high value).owes = 1 := rfl
      simp only [step, if_neg continues, List.length_cons]
      omega

theorem length_pieces_le (state : State) (bytes : Bytes) :
    (pieces state bytes).length ≤ state.owes + bytes.length := by
  induction bytes generalizing state with
  | nil => cases state <;> simp [pieces, State.owes]
  | cons b rest ih =>
    have one := length_step_le state b
    have others := ih (step state b).2
    have split : pieces state (b :: rest) = (step state b).1 ++ pieces (step state b).2 rest := by
      cases state <;> rfl
    rw [split, List.length_append, List.length_cons]
    omega

theorem length_decodeLossy_le (bytes : Bytes) : (decodeLossy bytes).length ≤ bytes.length := by
  have all := length_pieces_le .start bytes
  simpa [decodeLossy, State.owes] using all

end Utf8

variable {n : Node}

/-- A reference of few bytes has few digits. -/
theorem Node.IsShort.not_isOversized (short : n.IsShort) (named : n.named = true)
    (kind : n.kind = "html_character_reference") :
    ¬ CharacterReference.IsOversized (n.decodedText?.getD []) := by
  rintro ⟨digits, _, long, inside⟩
  have few : (n.decodedText?.getD []).length ≤ Node.longestReference := by
    refine Nat.le_trans ?_ (short named kind)
    rw [Node.decodedText?]
    cases n.text with
    | none => exact Nat.le_refl 0
    | some bytes => exact Utf8.length_decodeLossy_le bytes
  have many := inside.length_le
  simp only [List.length_cons, Text.maximumDigits, Node.longestReference] at many long few
  omega

theorem Node.mem_preorder_of_field {m : Node} {field : String} (found : n.childByField? field = some m) :
    m ∈ n.preorder :=
  mem_preorder_of_child (List.mem_of_find?_eq_some found) m.mem_preorder_self

/-- A specifier is spelled below the node that refers by it. -/
theorem Node.mem_preorder_of_specifierNode? {m : Node} (spells : n.specifierNode? = some m) :
    m ∈ n.preorder := by
  unfold specifierNode? at spells
  split at spells
  · obtain ⟨arguments, found, first⟩ := Option.bind_eq_some_iff.mp spells
    have argument : m ∈ arguments.preorder :=
      mem_preorder_of_child (List.mem_of_find?_eq_some first) m.mem_preorder_self
    exact mem_preorder_trans argument (mem_preorder_of_field found)
  · exact mem_preorder_of_field spells

namespace Source

theorem Tree.readable (t : Tree) : ∀ n ∈ t.node.preorder, ¬ n.IsUnreadable := by
  rintro n inside ⟨_, written, spells, _, piece, among, kind, oversized⟩
  obtain ⟨child, named⟩ := List.mem_filter.mp among
  have literal : written ∈ t.node.preorder :=
    Node.mem_preorder_trans (Node.mem_preorder_of_specifierNode? spells) inside
  have below : piece ∈ t.node.preorder :=
    Node.mem_preorder_trans (Node.mem_preorder_of_child child piece.mem_preorder_self) literal
  exact (t.short piece below).not_isOversized named kind oversized

theorem findings_parse_ne_error (rule : DepthRule) (path : Text) (dialect : Dialect) (bytes : Bytes)
    {fault : CharacterReference.Fault} : rule.findings path (parse dialect bytes) ≠ .error fault := by
  cases fault
  rw [ne_eq, DepthRule.findings_eq_error_iff]
  rintro ⟨n, inside, unreadable⟩
  exact (parseTree dialect bytes).readable n inside unreadable

end Source
end ImportDepth
