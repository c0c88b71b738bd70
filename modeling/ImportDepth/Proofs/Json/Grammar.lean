import ImportDepth.Json.Reader

/-! The grammar of JSON: which texts spell which values. Integers have any size, and members of an object
keep their order. Left out is what the standard leaves open, the value of a number with a fraction or an
exponent, of an escaped surrogate without its partner and of an object that has a name twice; there each
reader has its own way. -/
namespace ImportDepth.Json

def Blank (t : Text) : Prop := ∀ c ∈ t, isSpace c = true

instance (t : Text) : Decidable (Blank t) := List.decidableBAll (isSpace · = true) t

inductive SpellsUnit : Text → Nat → Prop where
  | digits {a b c d : CodePoint} {w x y z : Nat} (first : a.hexValue? = some w)
      (second : b.hexValue? = some x) (third : c.hexValue? = some y) (fourth : d.hexValue? = some z) :
      SpellsUnit [a, b, c, d] (((w * 16 + x) * 16 + y) * 16 + z)

inductive SpellsCharacter : Text → CodePoint → Prop where
  | itself {c : CodePoint} (unquoted : c ≠ '"') (unescaped : c ≠ '\\') (printed : ¬ c.val < 0x20)
      (scalar : ¬ c.IsSurrogate) : SpellsCharacter [c] c
  | short {c e : CodePoint} (listed : (e, c) ∈ shortEscapes) : SpellsCharacter ['\\', e] c
  | unit {t : Text} {c : CodePoint} (spelled : SpellsUnit t c.val) (scalar : ¬ c.IsSurrogate) :
      SpellsCharacter ('\\' :: 'u' :: t) c
  -- A code point of more than four digits has ten bits in each of two surrogates.
  | pair {s t : Text} {high low c : CodePoint} (first : SpellsUnit s high.val) (second : SpellsUnit t low.val)
      (upper : 0xD800 ≤ high.val ∧ high.val < 0xDC00) (lower : 0xDC00 ≤ low.val ∧ low.val < 0xE000)
      (joined : c.val = 0x10000 + (high.val - 0xD800) * 0x400 + (low.val - 0xDC00)) :
      SpellsCharacter ('\\' :: 'u' :: (s ++ ('\\' : CodePoint) :: 'u' :: t)) c

inductive SpellsText : Text → Text → Prop where
  | nil : SpellsText [] []
  | cons {s t u : Text} {c : CodePoint} (first : SpellsCharacter s c) (others : SpellsText t u) :
      SpellsText (s ++ t) (c :: u)

/-- Digits without a zero in front of others. -/
structure IsNumeral (t : Text) : Prop where
  nonempty : t ≠ []
  digits : ∀ c ∈ t, c.isAsciiDigit = true
  unpadded : t.head? = some ('0' : CodePoint) → t.length = 1

inductive SpellsInteger : Text → Int → Prop where
  | natural {t : Text} (numeral : IsNumeral t) : SpellsInteger t (Text.decimal t)
  | negative {t : Text} (numeral : IsNumeral t) : SpellsInteger ('-' :: t) (-Text.decimal t)

inductive Padded {α : Type} (part : Text → α → Prop) : Text → α → Prop where
  | around {s t u : Text} {a : α} (left : Blank s) (inner : part t a) (right : Blank u) :
      Padded part (s ++ (t ++ u)) a

inductive Separated {α : Type} (part : Text → α → Prop) : Text → List α → Prop where
  | one {t : Text} {a : α} (only : Padded part t a) : Separated part t [a]
  | more {s t : Text} {a : α} {others : List α} (first : Padded part s a)
      (rest : Separated part t others) : Separated part (s ++ (',' : CodePoint) :: t) (a :: others)

inductive Member (part : Text → Value → Prop) : Text → Text × Value → Prop where
  | entry {name key left right t : Text} {v : Value} (named : SpellsText name key) (before : Blank left)
      (after : Blank right) (held : part t v) :
      Member part ('"' :: (name ++ ('"' : CodePoint) :: (left ++ (':' : CodePoint) :: (right ++ t)))) (key, v)

inductive Spells : Text → Value → Prop where
  | null : Spells "null" .null
  | bool (b : Bool) : Spells (if b then ("true" : Text) else ("false" : Text)) (.bool b)
  | int {t : Text} {n : Int} (spelled : SpellsInteger t n) : Spells t (.int n)
  | text {t u : Text} (spelled : SpellsText t u) : Spells ('"' :: (t ++ [('"' : CodePoint)])) (.text u)
  | noItems {t : Text} (blank : Blank t) : Spells ('[' :: (t ++ [(']' : CodePoint)])) (.list [])
  | items {t : Text} {items : List Value} (spelled : Separated Spells t items) :
      Spells ('[' :: (t ++ [(']' : CodePoint)])) (.list items)
  | noMembers {t : Text} (blank : Blank t) : Spells ('\x7b' :: (t ++ [('\x7d' : CodePoint)])) (.table [])
  | members {t : Text} {entries : List (Text × Value)} (spelled : Separated (Member Spells) t entries)
      (distinct : (entries.map Prod.fst).Nodup) :
      Spells ('\x7b' :: (t ++ [('\x7d' : CodePoint)])) (.table entries)

/-- A reader that accepts every text of the grammar, and as the value that the text spells. -/
def IsStandard (read : Text → Option Value) : Prop := ∀ t v, Padded Spells t v → read t = some v

end ImportDepth.Json
