import AccessControl.Text.Unprintable

/-!
# Text — quoted text and lists in messages

Messages show a text between quotes, on one line and in visible characters.  Single quotes are
used, unless the text holds a single quote and no double quote.  The chosen quote and the
backslash get a backslash, and what cannot be seen is written by its code.
-/

namespace AccessControl.Text

/-- The lowercase hexadecimal numeral of a number, filled up with zeros to a width. -/
def hex (width n : Nat) : String :=
  let digits := Nat.toDigits 16 n
  String.ofList (List.replicate (width - digits.length) '0' ++ digits)

/-- How a character is written between quotes. -/
def escape (quote c : Char) : String :=
  if c = quote ∨ c = '\x5c' then String.ofList ['\x5c', c]
  else if c = '\n' then "\\n"
  else if c = '\r' then "\\r"
  else if c = '\t' then "\\t"
  else if isUnprintable c then
    if c.toNat < 0x100 then "\\x" ++ hex 2 c.toNat
    else if c.toNat < 0x10000 then "\\u" ++ hex 4 c.toNat
    else "\\U" ++ hex 8 c.toNat
  else c.toString

/-- The quote that goes around a text. -/
def quoteFor (text : String) : Char :=
  if '\x27' ∈ text.toList ∧ '\x22' ∉ text.toList then '\x22' else '\x27'

/-- The text between quotes. -/
def quoted (text : String) : String :=
  let quote := quoteFor text
  quote.toString ++ String.join (text.toList.map (escape quote)) ++ quote.toString

/-- The items of a list, between brackets. -/
def bracketed (items : List String) : String :=
  "[" ++ ", ".intercalate items ++ "]"

end AccessControl.Text
