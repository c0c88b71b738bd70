import ImportDepth.Text.Basic

/-! UTF-8 in both directions. Reading goes byte by byte through a small machine whose state says
which bytes may come next; a byte that may not come ends the broken sequence, which is read as one
U+FFFD, and is then looked at again as a first byte. A strict reading exists only where nothing is
broken. -/
namespace ImportDepth

abbrev Bytes := List UInt8

namespace Utf8

/-- Between code points, or inside one: `owed` bytes are still to come, the next of them from
`low` to `high`, and `value` holds the bits read so far. -/
inductive State where
  | start
  | within (owed : Nat) (low high : Nat) (value : Nat)
  deriving DecidableEq

/-- What a first byte begins: nothing (it stands for itself), a longer sequence, or no sequence. -/
inductive Lead where
  | single (c : CodePoint)
  | opens (next : State)
  | invalid

def lead (b : UInt8) : Lead :=
  let n := b.toNat
  if n < 0x80 then .single ⟨n % 0x80, by omega⟩
  else if n < 0xC2 then .invalid
  else if n < 0xE0 then .opens (.within 1 0x80 0xBF (n - 0xC0))
  else if n = 0xE0 then .opens (.within 2 0xA0 0xBF 0)
  else if n = 0xED then .opens (.within 2 0x80 0x9F 0xD)
  else if n < 0xF0 then .opens (.within 2 0x80 0xBF (n - 0xE0))
  else if n = 0xF0 then .opens (.within 3 0x90 0xBF 0)
  else if n < 0xF4 then .opens (.within 3 0x80 0xBF (n - 0xF0))
  else if n = 0xF4 then .opens (.within 3 0x80 0x8F 4)
  else .invalid

/-- One piece of a reading: a code point that was written, or a broken sequence. -/
inductive Piece where
  | read (c : CodePoint)
  | broken
  deriving DecidableEq

def first (b : UInt8) : List Piece × State :=
  match lead b with
  | .single c => ([.read c], .start)
  | .opens next => ([], next)
  | .invalid => ([.broken], .start)

/-- The pieces that one byte completes, and the state after it. -/
def step : State → UInt8 → List Piece × State
  | .start, b => first b
  | .within owed low high value, b =>
    if low ≤ b.toNat ∧ b.toNat ≤ high then
      let value := value * 64 + (b.toNat - 0x80)
      if owed ≤ 1 then
        (match CodePoint.ofNat? value with
          | some c => [.read c]
          | none => [.broken], .start)
      else ([], .within (owed - 1) 0x80 0xBF value)
    else
      let (pieces, next) := first b
      (.broken :: pieces, next)

/-- The pieces of a byte string, read from a state; what is unfinished at the end is broken. -/
def pieces : State → Bytes → List Piece
  | .start, [] => []
  | .within .., [] => [.broken]
  | state, b :: rest =>
    let (done, next) := step state b
    done ++ pieces next rest

def decodeLossy (bytes : Bytes) : Text :=
  (pieces .start bytes).map fun
    | .read c => c
    | .broken => CodePoint.replacement

def decode? (bytes : Bytes) : Option Text :=
  (pieces .start bytes).mapM fun
    | .read c => some c
    | .broken => none

/-- The bytes of one code point. A surrogate is written like its neighbours in three bytes. -/
def encodeOne (c : CodePoint) : Bytes :=
  let n := c.val
  if n < 0x80 then [.ofNat n]
  else if n < 0x800 then [.ofNat (0xC0 + n / 64), .ofNat (0x80 + n % 64)]
  else if n < 0x10000 then
    [.ofNat (0xE0 + n / 4096), .ofNat (0x80 + n / 64 % 64), .ofNat (0x80 + n % 64)]
  else
    [.ofNat (0xF0 + n / 262144), .ofNat (0x80 + n / 4096 % 64), .ofNat (0x80 + n / 64 % 64),
      .ofNat (0x80 + n % 64)]

def encode (t : Text) : Bytes := t.flatMap encodeOne

def ascii (s : String) : Bytes := s.toList.map fun c => .ofNat c.toNat

end Utf8
end ImportDepth
