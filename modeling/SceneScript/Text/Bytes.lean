/-!
# Text — cuts at a number of bytes

A text is stored as bytes, up to four for a character. A cut at a number of
bytes is one of the text only where it falls between two characters.
-/

namespace SceneScript
namespace Text

/-- The characters after the first `n` bytes of a text, unless the cut falls
inside a character or past the end. -/
def dropBytes? : Nat → List Char → Option (List Char)
  | 0, cs => some cs
  | _ + 1, [] => none
  | n + 1, c :: cs => if c.utf8Size ≤ n + 1 then dropBytes? (n + 1 - c.utf8Size) cs else none
termination_by _ cs => cs.length

end Text

end SceneScript
