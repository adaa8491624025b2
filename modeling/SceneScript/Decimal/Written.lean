import SceneScript.Decimal.Shortest
/-!
# Decimal — written numbers

A number is written with its shortest digits, in full or with an exponent.
Which of the two, and whether a whole number keeps a point, is a matter of
the place it is written in; a `Style` records those decisions. The
outline and the variables write every number in full, however large or
small; a dump of the variables marks whole numbers with `.0` and turns to
exponents outside a middle range.
-/

namespace SceneScript
namespace Decimal

/-- How numbers are written in one place. -/
structure Style where
  /-- Whether a number whose leading digit stands for this power of ten is
  written in full. -/
  inFull : Int → Bool
  /-- Whether a whole number ends in `.0`. -/
  marksWhole : Bool

/-- Always in full, a whole number without a point. -/
def Style.plain : Style := ⟨fun _ => true, false⟩

/-- In full from `0.0001` to below `10^16`, a whole number with a point. -/
def Style.marked : Style := ⟨fun order => -4 ≤ order && order < 16, true⟩

/-- The digits of a natural number. -/
def digitsOf (n : Nat) : List Char :=
  Nat.toDigits 10 n

/-- Digits and power of ten as a number without an exponent. -/
def writtenOut (marksWhole : Bool) (d : Digits) : List Char :=
  let digits := digitsOf d.digits
  if 0 ≤ d.exponent then
    digits ++ List.replicate d.exponent.toNat '0' ++ (if marksWhole then ['.', '0'] else [])
  else
    let places := (-d.exponent).toNat
    let padded := List.replicate (places + 1 - digits.length) '0' ++ digits
    padded.take (padded.length - places) ++ '.' :: padded.drop (padded.length - places)

/-- Digits and power of ten with one digit before the point and an exponent. -/
def withExponent (d : Digits) : List Char :=
  let digits := digitsOf d.digits
  let order := d.exponent + (digits.length - 1 : Nat)
  let point := if digits.length ≤ 1 then [] else ['.']
  digits.take 1 ++ point ++ digits.drop 1 ++ 'e' :: (toString order).toList

/-- A positive number in a style. -/
def Style.positive (style : Style) (d : Digits) : List Char :=
  if style.inFull (d.exponent + ((digitsOf d.digits).length - 1 : Nat)) then
    writtenOut style.marksWhole d
  else withExponent d

/-- A value of a binary format in a style. Zero keeps its sign; what is
no number is written without one. -/
def Style.write (style : Style) (f : Format) : Value → String
  | .nan => "NaN"
  | .infinite negative => if negative then "-inf" else "inf"
  | .finite negative m q =>
    let size := if m = 0 then writtenOut style.marksWhole ⟨0, 0⟩
      else style.positive (f.shortest m q)
    String.ofList (if negative then '-' :: size else size)

/-- A number of thirty-two bits, written in full. -/
def writeSingle (x : Float32) : String :=
  Style.plain.write .single (Format.single.decode x.toBits.toNat)

/-- A number of sixty-four bits, written in full. -/
def writeDouble (x : Float) : String :=
  Style.plain.write .double (Format.double.decode x.toBits.toNat)

/-- A number of sixty-four bits, with whole numbers marked. -/
def markDouble (x : Float) : String :=
  Style.marked.write .double (Format.double.decode x.toBits.toNat)

end Decimal
end SceneScript
