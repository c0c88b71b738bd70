import ImportDepth.Text.Printable

/-! Text in quotes for messages. Single quotes are used unless the text holds single quotes and no
double quote. Backslashes and the quote in use are escaped, and so is all that is not printable, by
its shortest hexadecimal form. -/
namespace ImportDepth.Text

def hexDigits (width n : Nat) : Text :=
  let digits := Nat.toDigits 16 n
  (List.replicate (width - digits.length) '0' ++ digits).map CodePoint.ofChar

def quotedOne (quote c : CodePoint) : Text :=
  if c = quote ∨ c = '\\' then ['\\', c]
  else if c.val = 0x9 then "\\t"
  else if c.val = 0xA then "\\n"
  else if c.val = 0xD then "\\r"
  else if c.isPrintable then [c]
  else if c.val < 0x100 then "\\x" ++ hexDigits 2 c.val
  else if c.val < 0x10000 then "\\u" ++ hexDigits 4 c.val
  else "\\U" ++ hexDigits 8 c.val

def quoted (t : Text) : Text :=
  let quote : CodePoint := if t.contains '\'' && !t.contains '"' then '"' else '\''
  quote :: t.flatMap (quotedOne quote) ++ [quote]

end ImportDepth.Text
