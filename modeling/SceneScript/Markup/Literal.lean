import SceneScript.Text.Blank
import SceneScript.Text.Caseless
import SceneScript.Decimal.Numeral
/-!
# Markup — literal values

Attribute values spell truth values and colours. Blanks around the spelling
do not count.
-/

namespace SceneScript
namespace Markup

/-- A truth value: a word in any case, or a digit. -/
def readBool? (s : String) : Option Bool :=
  let value := Text.trim s
  if Text.alike value "true" || value == "1" then some true
  else if Text.alike value "false" || value == "0" then some false
  else none

/-- The four bytes of a colour. -/
structure ColorBytes where
  red : Nat
  green : Nat
  blue : Nat
  alpha : Nat
deriving DecidableEq, Repr

/-- A colour: a hash mark and six hexadecimal digits, or eight when the last
two give the opacity. -/
def readColor? (s : String) : Option ColorBytes :=
  match Text.trimmed s.toList with
  | '#' :: digits =>
    if digits.all Decimal.isHexDigit then
      match digits with
      | [r, r', g, g', b, b'] =>
        some ⟨Decimal.spelled 16 [r, r'], Decimal.spelled 16 [g, g'],
          Decimal.spelled 16 [b, b'], 255⟩
      | [r, r', g, g', b, b', a, a'] =>
        some ⟨Decimal.spelled 16 [r, r'], Decimal.spelled 16 [g, g'],
          Decimal.spelled 16 [b, b'], Decimal.spelled 16 [a, a']⟩
      | _ => none
    else none
  | _ => none

end Markup
end SceneScript
