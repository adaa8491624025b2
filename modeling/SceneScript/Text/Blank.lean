import SceneScript.Text.Ranges
/-!
# Text — blank characters and trimming

The blank characters are those of Unicode's property White_Space. Trimming
takes them from both ends of a text; a text of blanks alone trims to
nothing.
-/

namespace SceneScript
namespace Text

/-- The code points of the property White_Space. -/
def blankRanges : Ranges :=
  [(0x9, 0xD), (0x20, 0x20), (0x85, 0x85), (0xA0, 0xA0), (0x1680, 0x1680), (0x2000, 0x200A),
   (0x2028, 0x2029), (0x202F, 0x202F), (0x205F, 0x205F), (0x3000, 0x3000)]

/-- Whether a character is blank. -/
def isBlank (c : Char) : Bool :=
  blankRanges.has c.toNat

/-- A list of characters without the blanks at its two ends. -/
def trimmed (cs : List Char) : List Char :=
  ((cs.dropWhile isBlank).reverse.dropWhile isBlank).reverse

/-- A text without the blanks at its two ends. -/
def trim (s : String) : String :=
  String.ofList (trimmed s.toList)

/-- Whether a text holds blanks alone. -/
def isBlankText (s : String) : Bool :=
  s.toList.all isBlank

end Text
end SceneScript
