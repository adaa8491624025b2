/-!
# Decimal — binary floating-point formats

A finite number of a binary format is a whole multiple of a power of two,
`m · 2^q`. The format says how many bits the multiple has and which powers
are allowed; a bit pattern is decoded into the multiple and the power, and a
ratio of two natural numbers is rounded to the nearest pattern, a tie going
to the even multiple. All arithmetic is exact and on natural numbers.
-/

namespace SceneScript
namespace Decimal

/-- A power of two. -/
def twoTo (k : Nat) : Nat := Nat.pow 2 k

/-- A power of ten. -/
def tenTo (k : Nat) : Nat := Nat.pow 10 k

/-- A binary interchange format, by the widths of its two fields. -/
structure Format where
  /-- Bits of the stored fraction. -/
  fraction : Nat
  /-- Bits of the stored exponent. -/
  exponent : Nat

namespace Format

/-- Thirty-two bits. -/
def single : Format := ⟨23, 8⟩

/-- Sixty-four bits. -/
def double : Format := ⟨52, 11⟩

/-- The least power of two that multiplies a finite number. -/
def least (f : Format) : Int :=
  2 - (twoTo (f.exponent - 1) : Nat) - f.fraction

/-- The pattern of infinity, without a sign. -/
def infinity (f : Format) : Nat :=
  (twoTo f.exponent - 1) * twoTo f.fraction

/-- The pattern of the sign alone. -/
def sign (f : Format) : Nat :=
  twoTo (f.exponent + f.fraction)

end Format

/-- What a bit pattern stands for. -/
inductive Value where
  /-- Not a number. -/
  | nan
  /-- Beyond every finite number. -/
  | infinite (negative : Bool)
  /-- The number `m · 2^q`, negated on demand. -/
  | finite (negative : Bool) (m : Nat) (q : Int)

/-- The value of a bit pattern. The least exponent field stands for the
multiples without a leading bit. -/
def Format.decode (f : Format) (bits : Nat) : Value :=
  let negative := bits / f.sign % 2 = 1
  let field := bits / twoTo f.fraction % twoTo f.exponent
  let stored := bits % twoTo f.fraction
  if field = twoTo f.exponent - 1 then
    if stored = 0 then .infinite negative else .nan
  else if field = 0 then .finite negative stored f.least
  else .finite negative (twoTo f.fraction + stored) (f.least + (field - 1 : Nat))

/-- The whole number nearest to a ratio, a half going to the even one. -/
def nearestEven (num den : Nat) : Nat :=
  let whole := num / den
  let twice := 2 * (num % den)
  if twice < den then whole
  else if den < twice then whole + 1
  else whole + whole % 2

/-- The ratio `num / den` as `num' / den'` with `num / den = num' / den' · 2^q`. -/
def scaleBinary (num den : Nat) : Int → Nat × Nat
  | .ofNat k => (num, den * twoTo k)
  | .negSucc k => (num * twoTo (k + 1), den)

/-- The greatest `e` with `2^e ≤ num / den`, for positive arguments. -/
def binaryOrder (num den : Nat) : Int :=
  let guess : Int := num.log2 - den.log2
  let scaled := scaleBinary num den guess
  if scaled.2 ≤ scaled.1 then guess else guess - 1

/-- The pattern of the number nearest to `num / den`, which is infinity when
no finite number is near enough. A multiple that rounds up to one bit more
carries into the exponent field by itself. -/
def Format.ofRatio (f : Format) (num den : Nat) : Nat :=
  if num = 0 then 0
  else
    let q := max (binaryOrder num den - f.fraction) f.least
    let scaled := scaleBinary num den q
    min ((q - f.least).toNat * twoTo f.fraction + nearestEven scaled.1 scaled.2) f.infinity

end Decimal
end SceneScript
