import ImportDepth.Proofs.Text
import ImportDepth.Text.Utf8

/-! UTF-8 read and written. The machine that reads keeps, between code points, what it has seen of the next
one: the bytes so far are the beginning of the written form of every code point that may still come of them,
and none of these is a surrogate. Hence a strict reading is exactly what was written, and no reading at all
holds a surrogate. -/
namespace ImportDepth.Utf8

/-- The first bytes of a sequence: a lead byte and a number of further bytes with six bits each. -/
def opening (mark : Nat) : Nat → Nat → Bytes
  | 0, value => [.ofNat (mark + value)]
  | n + 1, value => opening mark n (value / 64) ++ [.ofNat (0x80 + value % 64)]

def Spans (mark tails n : Nat) : Prop :=
  mark = 0xC0 ∧ tails = 1 ∧ 0x80 ≤ n ∧ n < 0x800 ∨
  mark = 0xE0 ∧ tails = 2 ∧ 0x800 ≤ n ∧ n < 0x10000 ∧ ¬ (0xD800 ≤ n ∧ n ≤ 0xDFFF) ∨
  mark = 0xF0 ∧ tails = 3 ∧ 0x10000 ≤ n ∧ n < 0x110000

/-- A number without the six bits that each of its last bytes holds. -/
def withoutTails (n : Nat) : Nat → Nat
  | 0 => n
  | tails + 1 => withoutTails n tails / 64

/-- The bytes that were read since the last code point begin all that may still come of them. -/
inductive Opened : Bytes → State → Prop
  | start : Opened [] .start
  | within {mark tails owed low high value : Nat} (least : 0x80 ≤ low) (most : high ≤ 0xBF)
      (completes : ∀ b n, low ≤ b → b ≤ high → withoutTails n owed = value * 64 + (b - 0x80) →
        Spans mark (tails + owed + 1) n) :
      Opened (opening mark tails value) (.within (owed + 1) low high value)

/-- Bytes that were read without a fault: they are a whole code point, or the beginning of one. -/
inductive Reads : Bytes → List Piece → State → Prop
  | completes {seen : Bytes} {c : CodePoint} (scalar : ¬ c.IsSurrogate) (written : seen = encodeOne c) :
      Reads seen [.read c] .start
  | continues {seen : Bytes} {next : State} (opened : Opened seen next) : Reads seen [] next

/-- What a byte does after others: it goes on with them, or breaks them off and begins anew, or is no part
of any code point. -/
inductive Takes (seen : Bytes) (b : UInt8) : List Piece → State → Prop
  | onward {done : List Piece} {next : State} (reads : Reads (seen ++ [b]) done next) : Takes seen b done next
  | anew {done : List Piece} {next : State} (reads : Reads [b] done next) :
      Takes seen b (.broken :: done) next
  | invalid {done : List Piece} (broken : .broken ∈ done) (unread : ∀ c, .read c ∉ done) :
      Takes seen b done .start

variable {b : UInt8} {seen bytes rest : Bytes} {state next : State} {c : CodePoint} {t : Text}
  {done : List Piece} {mark tails value : Nat}

theorem opening_append (low : 0x80 ≤ b.toNat) (high : b.toNat ≤ 0xBF) :
    opening mark tails value ++ [b] = opening mark (tails + 1) (value * 64 + (b.toNat - 0x80)) := by
  have front : (value * 64 + (b.toNat - 0x80)) / 64 = value := by omega
  have back : 0x80 + (value * 64 + (b.toNat - 0x80)) % 64 = b.toNat := by omega
  rw [opening, front, back, UInt8.ofNat_toNat]

theorem encodeOne_of_spans (spans : Spans mark tails c.val) : encodeOne c = opening mark tails c.val := by
  rcases spans with ⟨rfl, rfl, low, high⟩ | ⟨rfl, rfl, low, high, _⟩ | ⟨rfl, rfl, low, high⟩
  · rw [encodeOne, if_neg (by omega), if_pos high]
    rfl
  · rw [encodeOne, if_neg (by omega), if_neg (by omega), if_pos high]
    simp [opening, Nat.div_div_eq_div_mul]
  · rw [encodeOne, if_neg (by omega), if_neg (by omega), if_neg (by omega)]
    simp [opening, Nat.div_div_eq_div_mul]

theorem Spans.not_isSurrogate (spans : Spans mark tails c.val) : ¬ c.IsSurrogate := by
  unfold CodePoint.IsSurrogate
  unfold Spans at spans
  omega

theorem pieces_cons (state : State) (b : UInt8) (bytes : Bytes) :
    pieces state (b :: bytes) = (step state b).1 ++ pieces (step state b).2 bytes := by
  cases state <;> rfl

theorem reads_of_single (single : lead b = .single c) : Reads [b] [.read c] .start := by
  unfold lead at single
  dsimp only at single
  split at single
  · rename_i small
    cases single
    have value : b.toNat % 0x80 = b.toNat := Nat.mod_eq_of_lt small
    have written : encodeOne ⟨b.toNat % 0x80, by omega⟩ = [b] := by
      simp [encodeOne, value, small]
    refine .completes ?_ written.symm
    simp only [CodePoint.IsSurrogate]
    omega
  · repeat' split at single
    all_goals cases single

theorem opened_of_mark (mark : Nat) {owed low high : Nat} (same : mark + value = b.toNat)
    (least : 0x80 ≤ low) (most : high ≤ 0xBF)
    (completes : ∀ b n, low ≤ b → b ≤ high → withoutTails n owed = value * 64 + (b - 0x80) →
      Spans mark (owed + 1) n) : Opened [b] (.within (owed + 1) low high value) := by
  have written : [b] = opening mark 0 value := by rw [opening, same, UInt8.ofNat_toNat]
  rw [written]
  exact .within least most fun b n low high same => by
    rw [Nat.zero_add]
    exact completes b n low high same

/-- A lead byte opens what its range and the range of the next byte allow. -/
theorem opened_of_lead (opens : lead b = .opens next) : Opened [b] next := by
  unfold lead at opens
  dsimp only at opens
  repeat' split at opens
  all_goals cases opens
  · refine opened_of_mark 0xC0 (by omega) (by omega) (by omega) fun _ n low high same => ?_
    simp only [withoutTails] at same
    exact .inl (by omega)
  · refine opened_of_mark 0xE0 (by omega) (by omega) (by omega) fun _ n low high same => ?_
    simp only [withoutTails] at same
    exact .inr (.inl (by omega))
  · refine opened_of_mark 0xE0 (by omega) (by omega) (by omega) fun _ n low high same => ?_
    simp only [withoutTails] at same
    exact .inr (.inl (by omega))
  · refine opened_of_mark 0xE0 (by omega) (by omega) (by omega) fun _ n low high same => ?_
    simp only [withoutTails] at same
    exact .inr (.inl (by omega))
  · refine opened_of_mark 0xF0 (by omega) (by omega) (by omega) fun _ n low high same => ?_
    simp only [withoutTails] at same
    exact .inr (.inr (by omega))
  · refine opened_of_mark 0xF0 (by omega) (by omega) (by omega) fun _ n low high same => ?_
    simp only [withoutTails] at same
    exact .inr (.inr (by omega))
  · refine opened_of_mark 0xF0 (by omega) (by omega) (by omega) fun _ n low high same => ?_
    simp only [withoutTails] at same
    exact .inr (.inr (by omega))

/-- What a byte does between code points. -/
theorem first_cases (b : UInt8) :
    Reads [b] (first b).1 (first b).2 ∨ first b = ([.broken], .start) := by
  unfold first
  split
  · exact .inl (reads_of_single ‹_›)
  · exact .inl (.continues (opened_of_lead ‹_›))
  · exact .inr rfl

/-- What a byte in the permitted range does: the bytes are a whole code point, or more are owed. -/
theorem reads_within {owed low high : Nat} (opened : Opened seen (.within owed low high value))
    (least : low ≤ b.toNat) (most : b.toNat ≤ high) :
    Reads (seen ++ [b]) (step (.within owed low high value) b).1 (step (.within owed low high value) b).2 := by
  cases opened with
  | @within mark tails owed low high value lowest highest completes =>
    rw [opening_append (Nat.le_trans lowest least) (Nat.le_trans most highest), step,
      if_pos ⟨least, most⟩]
    cases owed with
    | zero =>
      have spans := completes b.toNat (value * 64 + (b.toNat - 0x80)) least most rfl
      have bound : value * 64 + (b.toNat - 0x80) < 0x110000 := by
        unfold Spans at spans
        omega
      simp only [Nat.zero_add, Nat.le_refl, if_true, CodePoint.ofNat?, bound, dif_pos]
      exact .completes (Spans.not_isSurrogate (c := ⟨_, bound⟩) spans)
        (encodeOne_of_spans (c := ⟨_, bound⟩) spans).symm
    | succ owed =>
      rw [if_neg (by omega), Nat.add_sub_cancel]
      refine .continues (.within (by omega) (by omega) fun d n low high same => ?_)
      have above : withoutTails n (owed + 1) = value * 64 + (b.toNat - 0x80) := by
        rw [withoutTails, same]
        omega
      have spans := completes b.toNat n least most above
      rwa [show tails + 1 + owed + 1 = tails + (owed + 1) + 1 by omega]

/-- Each step keeps the invariant. -/
theorem step_takes (opened : Opened seen state) (b : UInt8) :
    Takes seen b (step state b).1 (step state b).2 := by
  cases state with
  | start =>
    cases opened
    rw [step]
    rcases first_cases b with reads | same
    · exact .onward (by simpa using reads)
    · rw [same]
      exact .invalid (by simp) (by simp)
  | within owed low high value =>
    by_cases permitted : low ≤ b.toNat ∧ b.toNat ≤ high
    · exact .onward (reads_within opened permitted.1 permitted.2)
    · rw [step, if_neg permitted]
      rcases first_cases b with reads | same
      · exact .anew reads
      · rw [same]
        exact .invalid (by simp) (by simp)

/-- Whatever a byte does, the machine goes on from bytes that are open. -/
theorem Takes.opened (takes : Takes seen b done next) : ∃ seen, Opened seen next := by
  cases takes with
  | onward reads | anew reads =>
    cases reads with
    | completes => exact ⟨_, .start⟩
    | continues opened => exact ⟨_, opened⟩
  | invalid => exact ⟨_, .start⟩

theorem Takes.not_isSurrogate (takes : Takes seen b done next) (member : .read c ∈ done) :
    ¬ c.IsSurrogate := by
  have whole : ∀ {seen done}, Reads seen done next → .read c ∈ done → ¬ c.IsSurrogate := by
    intro seen done reads member
    cases reads with
    | completes scalar _ =>
      simp only [List.mem_singleton, Piece.read.injEq] at member
      rwa [member]
    | continues => cases member
  cases takes with
  | onward reads => exact whole reads member
  | anew reads => exact whole reads (by simpa using member)
  | invalid _ unread => exact absurd member (unread c)

theorem not_isSurrogate_of_mem_pieces (opened : Opened seen state) (member : .read c ∈ pieces state bytes) :
    ¬ c.IsSurrogate := by
  induction bytes generalizing seen state with
  | nil => cases state <;> simp [pieces] at member
  | cons b rest ih =>
    have takes := step_takes opened b
    rw [pieces_cons, List.mem_append] at member
    rcases member with member | member
    · exact takes.not_isSurrogate member
    · obtain ⟨_, further⟩ := takes.opened
      exact ih further member

/-- No reading holds a surrogate, however broken the bytes are. -/
theorem decodeLossy_isScalar (bytes : Bytes) : (decodeLossy bytes).IsScalar := by
  intro c member
  obtain ⟨piece, inside, same⟩ := List.mem_map.mp member
  cases piece with
  | read d => exact same ▸ not_isSurrogate_of_mem_pieces .start inside
  | broken =>
    rw [← same]
    decide

/-- Bytes that are read without a fault are those that the code points are written with. -/
theorem eq_encode_of_pieces (opened : Opened seen state) (read : pieces state bytes = t.map .read) :
    seen ++ bytes = encode t := by
  induction bytes generalizing seen state t with
  | nil =>
    cases state with
    | start =>
      cases opened
      cases t with
      | nil => rfl
      | cons => cases read
    | within => cases t <;> simp [pieces] at read
  | cons b rest ih =>
    have takes := step_takes opened b
    rw [pieces_cons] at read
    have joined : seen ++ b :: rest = seen ++ [b] ++ rest := by simp
    generalize step state b = after at takes read
    obtain ⟨done, next⟩ := after
    dsimp only at takes read
    have faultless : .broken ∉ done := by
      intro broken
      have inside : .broken ∈ t.map Piece.read := by
        rw [← read]
        exact List.mem_append_left _ broken
      simp at inside
    cases takes with
    | onward reads =>
      rw [joined]
      cases reads with
      | completes _ written =>
        cases t with
        | nil => cases read
        | cons d t =>
          simp only [List.singleton_append, List.map_cons, List.cons.injEq, Piece.read.injEq] at read
          obtain ⟨rfl, read⟩ := read
          have further := ih .start read
          rw [encode, List.flatMap_cons, ← encode, ← further, written, List.nil_append]
      | continues opened => exact ih opened read
    | anew => simp at faultless
    | invalid broken => exact absurd broken faultless

theorem toNat_byte {n : Nat} (small : n < 256) : (UInt8.ofNat n).toNat = n := by
  rw [UInt8.toNat_ofNat']
  exact Nat.mod_eq_of_lt small

theorem step_tail {owed low high x : Nat} (small : x < 64) (least : low ≤ 0x80 + x)
    (most : 0x80 + x ≤ high) :
    step (.within (owed + 2) low high value) (.ofNat (0x80 + x)) =
      ([], .within (owed + 1) 0x80 0xBF (value * 64 + x)) := by
  rw [step, toNat_byte (by omega), if_pos ⟨least, most⟩, if_neg (by omega), Nat.add_sub_cancel_left]
  rfl

theorem step_last {low high x : Nat} (small : x < 64) (least : low ≤ 0x80 + x)
    (most : 0x80 + x ≤ high) (same : value * 64 + x = c.val) :
    step (.within 1 low high value) (.ofNat (0x80 + x)) = ([.read c], .start) := by
  rw [step, toNat_byte (by omega), if_pos ⟨least, most⟩, if_pos (Nat.le_refl 1), Nat.add_sub_cancel_left,
    same]
  simp [CodePoint.ofNat?]

theorem step_two {v : Nat} (least : 2 ≤ v) (most : v < 32) :
    step .start (.ofNat (0xC0 + v)) = ([], .within 1 0x80 0xBF v) := by
  have byte : (UInt8.ofNat (0xC0 + v)).toNat = 0xC0 + v := toNat_byte (by omega)
  rw [step, first, lead, if_neg (by omega), if_neg (by omega), if_pos (by omega), byte,
    Nat.add_sub_cancel_left]

theorem step_three {v : Nat} (most : v < 16) :
    step .start (.ofNat (0xE0 + v)) =
      ([], .within 2 (if v = 0 then 0xA0 else 0x80) (if v = 0xD then 0x9F else 0xBF) v) := by
  by_cases zero : v = 0
  · subst zero
    rfl
  · by_cases thirteen : v = 0xD
    · subst thirteen
      rfl
    · have byte : (UInt8.ofNat (0xE0 + v)).toNat = 0xE0 + v := toNat_byte (by omega)
      rw [step, first, lead, if_neg (by omega), if_neg (by omega), if_neg (by omega), if_neg (by omega),
        if_neg (by omega), if_pos (by omega), byte, if_neg zero, if_neg thirteen, Nat.add_sub_cancel_left]

theorem step_four {v : Nat} (most : v ≤ 4) :
    step .start (.ofNat (0xF0 + v)) =
      ([], .within 3 (if v = 0 then 0x90 else 0x80) (if v = 4 then 0x8F else 0xBF) v) := by
  rcases (show v = 0 ∨ v = 1 ∨ v = 2 ∨ v = 3 ∨ v = 4 by omega) with rfl | rfl | rfl | rfl | rfl
  all_goals rfl

/-- A code point is read from the bytes that it is written with. -/
theorem pieces_encodeOne (scalar : ¬ c.IsSurrogate) (rest : Bytes) :
    pieces .start (encodeOne c ++ rest) = .read c :: pieces .start rest := by
  have bound := c.isLt
  unfold CodePoint.IsSurrogate at scalar
  unfold encodeOne
  dsimp only
  split
  · rename_i small
    have single : step .start (.ofNat c.val) = ([.read c], .start) := by
      have byte : (UInt8.ofNat c.val).toNat = c.val := toNat_byte (by omega)
      rw [step, first, lead, if_pos (by omega)]
      simp only [byte, Nat.mod_eq_of_lt small]
    rw [List.singleton_append, pieces_cons, single]
    rfl
  · split
    · simp only [List.cons_append, List.nil_append]
      rw [pieces_cons, step_two (by omega) (by omega), pieces_cons,
        step_last (c := c) (by omega) (by omega) (by omega) (by omega)]
      rfl
    · split
      · simp only [List.cons_append, List.nil_append]
        rw [pieces_cons, step_three (by omega), pieces_cons,
          step_tail (by omega) (by split <;> omega) (by split <;> omega), pieces_cons,
          step_last (c := c) (by omega) (by omega) (by omega) (by omega)]
        rfl
      · simp only [List.cons_append, List.nil_append]
        rw [pieces_cons, step_four (by omega), pieces_cons,
          step_tail (by omega) (by split <;> omega) (by split <;> omega), pieces_cons,
          step_tail (by omega) (by omega) (by omega), pieces_cons,
          step_last (c := c) (by omega) (by omega) (by omega) (by omega)]
        rfl

theorem pieces_encode (scalar : t.IsScalar) : pieces .start (encode t) = t.map .read := by
  induction t with
  | nil => rfl
  | cons c t ih =>
    have one : pieces .start (encodeOne c ++ encode t) = .read c :: pieces .start (encode t) :=
      pieces_encodeOne (scalar c (by simp)) _
    rw [encode, List.flatMap_cons, ← encode, one, ih (Text.IsScalar.cons_iff.mp scalar).2, List.map_cons]

theorem decode?_eq_some_iff_pieces : decode? bytes = some t ↔ pieces .start bytes = t.map .read := by
  unfold decode?
  generalize pieces .start bytes = list
  induction list generalizing t with
  | nil => cases t <;> simp
  | cons piece list ih =>
    rw [List.mapM_cons]
    cases piece with
    | broken => cases t <;> simp
    | read c =>
      simp only [Option.bind_eq_bind, Option.bind_some, Option.bind_eq_some_iff, ih]
      constructor
      · rintro ⟨others, read, same⟩
        cases same
        rw [read, List.map_cons]
      · intro read
        cases t with
        | nil => cases read
        | cons d others =>
          obtain ⟨first, further⟩ := List.cons.inj read
          cases first
          exact ⟨others, further, rfl⟩

/-- Strict reading is the inverse of writing: bytes are read as a text exactly if the text is written with
them and holds no surrogate. -/
theorem decode?_eq_some_iff :
    decode? bytes = some t ↔ bytes = encode t ∧ t.IsScalar := by
  rw [decode?_eq_some_iff_pieces]
  constructor
  · intro read
    refine ⟨by simpa using eq_encode_of_pieces .start read, fun c member => ?_⟩
    have inside : .read c ∈ pieces .start bytes := by
      rw [read]
      exact List.mem_map_of_mem member
    exact not_isSurrogate_of_mem_pieces .start inside
  · rintro ⟨rfl, scalar⟩
    exact pieces_encode scalar

theorem decodeLossy_encode (scalar : t.IsScalar) : decodeLossy (encode t) = t := by
  rw [decodeLossy, pieces_encode scalar, List.map_map]
  exact List.map_id t

/-- A reading without U+FFFD is the text that was written. -/
theorem decodeLossy_eq_iff (scalar : t.IsScalar) (whole : CodePoint.replacement ∉ t) :
    decodeLossy bytes = t ↔ bytes = encode t := by
  constructor
  · intro read
    have unbroken : pieces .start bytes = t.map .read := by
      rw [← read] at whole ⊢
      rw [decodeLossy, List.map_map]
      refine ((List.map_congr_left ?_).trans (List.map_id _)).symm
      intro piece member
      cases piece with
      | read c => rfl
      | broken => exact absurd (List.mem_map_of_mem member) whole
    exact eq_encode_of_pieces .start unbroken
  · rintro rfl
    exact decodeLossy_encode scalar

/-- Texts of ASCII are read back from their bytes. -/
theorem decode?_encode_of_ascii (ascii : ∀ c ∈ t, c.val < 0x80) : decode? (encode t) = some t := by
  refine decode?_eq_some_iff.mpr ⟨rfl, fun c member surrogate => ?_⟩
  have small := ascii c member
  unfold CodePoint.IsSurrogate at surrogate
  omega

end ImportDepth.Utf8
