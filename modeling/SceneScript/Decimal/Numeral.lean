import SceneScript.Decimal.Format
/-!
# Decimal — numerals

A numeral is a sign or none, digits with at most one point among or beside
them, and at most one exponent, which has a sign or none and at least one
digit. It is read as the number of the binary format that lies nearest; a
numeral too large for a finite number is not read at all.
-/

namespace SceneScript
namespace Decimal

/-- A numeral: digits, the power of ten that multiplies them, and a sign. -/
structure Numeral where
  negative : Bool
  digits : Nat
  exponent : Int

/-- Whether a character is a hexadecimal digit, in either case. -/
def isHexDigit (c : Char) : Bool :=
  c.isDigit || ('a' ≤ c.toLower && c.toLower ≤ 'f')

/-- The number that digits spell in a base up to sixteen. -/
def spelled (base : Nat) (cs : List Char) : Nat :=
  cs.foldl (fun n c =>
    let digit := if c.isDigit then c.toNat - 48 else c.toLower.toNat - 87
    n * base + digit) 0

/-- A sign, if there is one, and what follows it. -/
def splitSign : List Char → Bool × List Char
  | '-' :: rest => (true, rest)
  | '+' :: rest => (false, rest)
  | cs => (false, cs)

/-- The exponent that ends a numeral. -/
def exponent? : List Char → Option Int
  | [] => some 0
  | c :: rest =>
    let (negative, digits) := splitSign rest
    if (c = 'e' ∨ c = 'E') ∧ digits ≠ [] ∧ digits.all Char.isDigit then
      some (if negative then -(spelled 10 digits : Int) else spelled 10 digits)
    else none

/-- Reads a numeral that takes up the whole text. -/
def Numeral.ofText? (s : String) : Option Numeral :=
  let (negative, cs) := splitSign s.toList
  let (whole, rest) := cs.span Char.isDigit
  let (places, rest) := match rest with
    | '.' :: rest => rest.span Char.isDigit
    | rest => ([], rest)
  if whole ++ places = [] then none
  else (exponent? rest).map fun e =>
    ⟨negative, spelled 10 (whole ++ places), e - places.length⟩

/-- The pattern nearest to a numeral, if it is finite. A power of ten past
every exponent of the format settles the matter before any arithmetic. -/
def Numeral.toBits? (f : Format) (n : Numeral) : Option Nat :=
  let order := n.exponent + (Nat.toDigits 10 n.digits).length
  let size :=
    if n.digits = 0 ∨ order < -(twoTo f.exponent : Nat) then 0
    else if (twoTo f.exponent : Nat) < order then f.infinity
    else if 0 ≤ n.exponent then f.ofRatio (n.digits * tenTo n.exponent.toNat) 1
    else f.ofRatio n.digits (tenTo (-n.exponent).toNat)
  if size = f.infinity then none
  else some (if n.negative then f.sign + size else size)

/-- The finite number of thirty-two bits that a text spells. -/
def readSingle? (s : String) : Option Float32 :=
  (Numeral.ofText? s).bind fun n =>
    (n.toBits? .single).map fun bits => Float32.ofBits (UInt32.ofNat bits)

/-- The number of thirty-two bits nearest to a natural number. -/
def singleOfNat (n : Nat) : Float32 :=
  Float32.ofBits (UInt32.ofNat (Format.single.ofRatio n 1))

end Decimal
end SceneScript
