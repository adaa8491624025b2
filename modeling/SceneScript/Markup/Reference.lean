import SceneScript.Decimal.Numeral
import SceneScript.Markup.Error
/-!
# Markup — character references

An ampersand in text or in a value starts a reference, which the nearest
semicolon ends. It is replaced by the character it stands for: one of the
five named ones, or the character of a decimal or hexadecimal code point.
What a reference produces is not read again.
-/

namespace SceneScript
namespace Markup

/-- The character whose code point the digits of a base spell. A plus sign
may stand before the digits. -/
def charOfDigits? (base : Nat) (isDigit : Char → Bool) (cs : List Char) : Option Char :=
  let digits := match cs with
    | '+' :: rest => rest
    | cs => cs
  let code := Decimal.spelled base digits
  if digits ≠ [] ∧ digits.all isDigit ∧ code.isValidChar then some (Char.ofNat code)
  else none

/-- The character that a reference stands for, by what is written between
the ampersand and the semicolon. -/
def referenced? (name : List Char) : Option Char :=
  if name = ['l', 't'] then some '<'
  else if name = ['g', 't'] then some '>'
  else if name = ['a', 'm', 'p'] then some '&'
  else if name = ['q', 'u', 'o', 't'] then some '\x22'
  else if name = ['a', 'p', 'o', 's'] then some '\x27'
  else match name with
    | '#' :: 'x' :: digits => charOfDigits? 16 Decimal.isHexDigit digits
    | '#' :: digits => charOfDigits? 10 Char.isDigit digits
    | _ => none

/-- Replaces every reference, left to right. -/
def decodeReferences (cs : List Char) : Except Fault (List Char) :=
  match cs with
  | [] => .ok []
  | c :: rest =>
    if c = '&' then
      match _h : rest.dropWhile (· ≠ ';') with
      | [] => .error .unterminatedReference
      | _ :: tail =>
        let name := rest.takeWhile (· ≠ ';')
        match referenced? name with
        | none => .error (.unknownReference (String.ofList name))
        | some d => (decodeReferences tail).map (d :: ·)
    else (decodeReferences rest).map (c :: ·)
termination_by cs.length
decreasing_by
  all_goals simp_wf
  have := (List.dropWhile_sublist (· ≠ ';') (l := rest)).length_le
  simp_all
  omega

end Markup
end SceneScript
