import ImportDepth.Proofs.Utf8

/-! ASCII in bytes that may be broken. A byte below 0x80 is never part of a longer sequence: it breaks off one
that is open and stands for itself, and the machine goes on from the start. No other byte stands for it. -/
namespace ImportDepth.Utf8

variable {b : UInt8} {seen bytes rest : Bytes} {state next : State} {done : List Piece} {c : CodePoint}

theorem encodeOne_of_ascii (ascii : c.val < 0x80) : encodeOne c = [.ofNat c.val] := by
  rw [encodeOne, if_pos ascii]

theorem first_of_ascii (ascii : c.val < 0x80) : first (.ofNat c.val) = ([.read c], .start) := by
  have byte : (UInt8.ofNat c.val).toNat = c.val := toNat_byte (by omega)
  rw [first, lead, if_pos (by omega)]
  simp only [byte, Nat.mod_eq_of_lt ascii]

/-- What is open before an ASCII byte ends like at the end of the bytes. -/
theorem pieces_cons_of_ascii (opened : Opened seen state) (ascii : c.val < 0x80) (rest : Bytes) :
    pieces state (.ofNat c.val :: rest) = pieces state [] ++ .read c :: pieces .start rest := by
  rw [pieces_cons]
  cases opened with
  | start => rw [step, first_of_ascii ascii]; rfl
  | within least most completes =>
    have byte : (UInt8.ofNat c.val).toNat = c.val := toNat_byte (by omega)
    rw [step, if_neg (by omega), first_of_ascii ascii]
    rfl

theorem pieces_append_of_ascii (opened : Opened seen state) (ascii : c.val < 0x80) (bytes rest : Bytes) :
    pieces state (bytes ++ .ofNat c.val :: rest) = pieces state bytes ++ .read c :: pieces .start rest := by
  induction bytes generalizing seen state with
  | nil => exact pieces_cons_of_ascii opened ascii rest
  | cons b bytes ih =>
    obtain ⟨_, further⟩ := (step_takes opened b).opened
    rw [List.cons_append, pieces_cons, pieces_cons, ih further, List.append_assoc]

/-- Only the byte itself completes an ASCII code point. -/
theorem Takes.eq_of_ascii (takes : Takes seen b done next) (member : .read c ∈ done)
    (ascii : c.val < 0x80) : b = .ofNat c.val := by
  have whole : ∀ {seen done}, Reads seen done next → .read c ∈ done → seen = [.ofNat c.val] := by
    intro seen done reads member
    cases reads with
    | completes scalar written =>
      simp only [List.mem_singleton, Piece.read.injEq] at member
      rw [written, ← member, encodeOne_of_ascii ascii]
    | continues => cases member
  cases takes with
  | onward reads =>
    have only := whole reads member
    rw [List.append_eq_singleton_iff] at only
    rcases only with ⟨_, same⟩ | ⟨_, empty⟩
    · exact List.head_eq_of_cons_eq same
    · cases empty
  | anew reads => exact List.head_eq_of_cons_eq (whole reads (by simpa using member))
  | invalid _ unread => exact absurd member (unread c)

theorem mem_of_read_mem_pieces (opened : Opened seen state) (ascii : c.val < 0x80)
    (member : .read c ∈ pieces state bytes) : .ofNat c.val ∈ bytes := by
  induction bytes generalizing seen state with
  | nil => cases state <;> simp [pieces] at member
  | cons b rest ih =>
    have takes := step_takes opened b
    rw [pieces_cons, List.mem_append] at member
    rcases member with member | member
    · rw [takes.eq_of_ascii member ascii]
      exact List.mem_cons_self
    · obtain ⟨_, further⟩ := takes.opened
      exact .tail b (ih further member)

/-- An ASCII byte parts what is read before it from what is read after it. -/
theorem decodeLossy_append_of_ascii (ascii : c.val < 0x80) (bytes rest : Bytes) :
    decodeLossy (bytes ++ .ofNat c.val :: rest) = decodeLossy bytes ++ c :: decodeLossy rest := by
  rw [decodeLossy, pieces_append_of_ascii .start ascii, List.map_append]
  rfl

/-- An ASCII code point is read exactly if its byte is there, however broken the bytes are. -/
theorem mem_decodeLossy_iff (ascii : c.val < 0x80) : c ∈ decodeLossy bytes ↔ .ofNat c.val ∈ bytes := by
  constructor
  · intro member
    obtain ⟨piece, inside, same⟩ := List.mem_map.mp member
    cases piece with
    | read d =>
      cases same
      exact mem_of_read_mem_pieces .start ascii inside
    | broken =>
      rw [← same] at ascii
      contradiction
  · intro member
    obtain ⟨front, back, rfl⟩ := List.append_of_mem member
    rw [decodeLossy_append_of_ascii ascii]
    exact List.mem_append_right _ List.mem_cons_self

/-- Bytes never vanish. -/
theorem pieces_ne_nil (opened : Opened seen state) (nonempty : seen ++ bytes ≠ []) :
    pieces state bytes ≠ [] := by
  induction bytes generalizing seen state with
  | nil =>
    cases opened with
    | start => contradiction
    | within => exact List.cons_ne_nil _ _
  | cons b rest ih =>
    have takes := step_takes opened b
    rw [pieces_cons]
    intro empty
    obtain ⟨none, further⟩ := List.append_eq_nil_iff.mp empty
    generalize step state b = after at takes none further
    obtain ⟨done, next⟩ := after
    cases none
    cases takes with
    | onward reads =>
      cases reads with
      | continues opened => exact ih opened (by simp) further
    | invalid broken => cases broken

theorem decodeLossy_ne_nil (nonempty : bytes ≠ []) : decodeLossy bytes ≠ [] := by
  intro empty
  exact pieces_ne_nil .start nonempty (List.map_eq_nil_iff.mp empty)

end ImportDepth.Utf8
