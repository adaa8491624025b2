import SceneScript.Text.Alphabetic
import SceneScript.Text.Numeric
/-!
# Markup — names

Elements and attributes have names of letters, numerals and four marks. A
name starts with a letter, an underscore or a colon.
-/

namespace SceneScript
namespace Markup

/-- Whether a character can start a name. -/
def isNameStart (c : Char) : Bool :=
  Text.isAlphabetic c || c = '_' || c = ':'

/-- Whether a character can stand in a name. -/
def isNameChar (c : Char) : Bool :=
  Text.isAlphabetic c || Text.isNumeric c || c = '_' || c = '-' || c = '.' || c = ':'

/-- What starts a name can stand in one. -/
theorem isNameChar_of_isNameStart {c : Char} (h : isNameStart c = true) :
    isNameChar c = true := by
  simp only [isNameStart, isNameChar, Bool.or_eq_true] at h ⊢
  rcases h with (h | h) | h <;> simp [h]

/-- Whether a list of characters is a name. -/
def isName : List Char → Bool
  | [] => false
  | c :: cs => isNameStart c && cs.all isNameChar

end Markup
end SceneScript
