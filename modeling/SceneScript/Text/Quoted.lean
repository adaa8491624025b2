import SceneScript.Text.Printable
/-!
# Text — quoted characters and strings

Messages show a character between apostrophes and a string between double
quotes. The quote in use and the backslash take a backslash, the four
common controls their letter, and any other character that does not show
is written as its code point in hexadecimal.
-/

namespace SceneScript
namespace Text

/-- A code point in braces, in lower-case hexadecimal. -/
def codePoint (c : Char) : List Char :=
  '\x5c' :: 'u' :: '\x7b' :: (Nat.toDigits 16 c.toNat ++ ['\x7d'])

/-- One character as it stands between quotes of the given kind. -/
def escaped (quote c : Char) : List Char :=
  if c = '\x00' then ['\x5c', '0']
  else if c = '\t' then ['\x5c', 't']
  else if c = '\n' then ['\x5c', 'n']
  else if c = '\r' then ['\x5c', 'r']
  else if c = '\x5c' ∨ c = quote then ['\x5c', c]
  else if shows c then [c]
  else codePoint c

/-- A character between apostrophes. -/
def quotedChar (c : Char) : String :=
  String.ofList ('\x27' :: (escaped '\x27' c ++ ['\x27']))

/-- A string between double quotes. -/
def quoted (s : String) : String :=
  String.ofList ('\x22' :: (s.toList.flatMap (escaped '\x22') ++ ['\x22']))

/-- An optional string, quoted, or the word for its absence. -/
def quotedOption : Option String → String
  | some s => "Some(" ++ quoted s ++ ")"
  | none => "None"

/-- Strings in brackets, quoted and divided by commas. -/
def quotedList (ss : List String) : String :=
  "[" ++ String.intercalate ", " (ss.map quoted) ++ "]"

end Text
end SceneScript
