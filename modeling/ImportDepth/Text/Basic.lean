/-! Text is a sequence of code points. Surrogate code points are ordinary members, because an
escape in a string literal may spell one on its own and nothing later may lose it. Strings written
in this library stand for the text of their characters. -/
namespace ImportDepth

/-- A Unicode code point, surrogates included. -/
abbrev CodePoint := Fin 0x110000

namespace CodePoint

def ofChar (c : Char) : CodePoint :=
  ⟨c.toNat, by
    have valid := c.valid
    simp only [UInt32.isValidChar, Nat.isValidChar] at valid
    simp only [Char.toNat, UInt32.toNat] at *
    omega⟩

instance : Coe Char CodePoint := ⟨ofChar⟩

def ofNat? (n : Nat) : Option CodePoint :=
  if h : n < 0x110000 then some ⟨n, h⟩ else none

/-- U+FFFD, written in place of what cannot be read. -/
def replacement : CodePoint := ⟨0xFFFD, by decide⟩

def IsSurrogate (c : CodePoint) : Prop := 0xD800 ≤ c.val ∧ c.val ≤ 0xDFFF

instance : DecidablePred IsSurrogate := fun _ => inferInstanceAs (Decidable (_ ∧ _))

def inRanges (ranges : List (Nat × Nat)) (c : CodePoint) : Bool :=
  ranges.any fun (low, high) => low ≤ c.val && c.val ≤ high

end CodePoint

abbrev Text := List CodePoint

namespace Text

def ofString (s : String) : Text := s.toList.map CodePoint.ofChar

instance : Coe String Text := ⟨ofString⟩

/-- The text as a string; a surrogate has no character and becomes U+FFFD. -/
def toString (t : Text) : String :=
  String.ofList (t.map fun c => if c.IsSurrogate then Char.ofNat 0xFFFD else Char.ofNat c.val)

def ofNat (n : Nat) : Text := (Nat.toDigits 10 n).map CodePoint.ofChar

def ofInt : Int → Text
  | .ofNat n => ofNat n
  | .negSucc n => '-' :: ofNat (n + 1)

def join (separator : Text) (pieces : List Text) : Text := separator.intercalate pieces

/-- The parts of the text between occurrences of one code point. There is always one part. -/
def splitOn (separator : CodePoint) : Text → List Text
  | [] => [[]]
  | c :: rest =>
    if c = separator then [] :: splitOn separator rest
    else match splitOn separator rest with
      | [] => [[c]]
      | part :: parts => (c :: part) :: parts

def dropEndWhile (p : CodePoint → Bool) (t : Text) : Text := (t.reverse.dropWhile p).reverse

def trim (p : CodePoint → Bool) (t : Text) : Text := dropEndWhile p (t.dropWhile p)

/-- Order by code point, a proper beginning before its extensions. -/
def le : Text → Text → Bool
  | [], _ => true
  | _ :: _, [] => false
  | c :: s, d :: t => c.val < d.val || (c.val = d.val && le s t)

end Text
end ImportDepth
