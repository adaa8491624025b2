import SceneScript.Decimal.Format
/-!
# Decimal — the shortest digits that read back

A number of a binary format is told from its neighbours by far fewer digits
than its exact expansion has. Every real between the two midpoints to the
neighbours rounds to the number; the midpoints themselves do so exactly when
the multiple is even. The shortest digits are found on the decimal grids in
turn, from the coarsest: on each only the two grid points around the number
can lie between the midpoints, and the first grid with a hit wins. Of two
hits the nearer is taken, and the greater when both are as near.
-/

namespace SceneScript
namespace Decimal

/-- A positive number `m · 2^q` with the two midpoints to its neighbours, all
over one denominator. -/
structure Span where
  low : Nat
  mid : Nat
  high : Nat
  den : Nat
  /-- Whether the midpoints belong. -/
  closed : Bool

/-- The span of `m · 2^q`. Below a power of two the neighbours are half as
far apart, unless the power is the least one. -/
def Format.span (f : Format) (m : Nat) (q : Int) : Span :=
  let below := if m = twoTo f.fraction ∧ f.least < q then 1 else 2
  -- a quarter of the distance to the upper neighbour
  let quarter := scaleBinary 1 1 (2 - q)
  { low := (4 * m - below) * quarter.1
    mid := 4 * m * quarter.1
    high := (4 * m + 2) * quarter.1
    den := quarter.2
    closed := m % 2 = 0 }

/-- Whether the point `k / grid` lies in the span. -/
def Span.holds (s : Span) (k grid : Nat) : Bool :=
  let point := k * s.den
  if s.closed then s.low * grid ≤ point && point ≤ s.high * grid
  else s.low * grid < point && point < s.high * grid

/-- Digits, and the power of ten that multiplies them. -/
structure Digits where
  digits : Nat
  exponent : Int

/-- The hit on one grid, whose points are the multiples of `10^e`. -/
def Span.onGrid? (s : Span) (e : Int) : Option Nat :=
  let coarse := if e ≤ 0 then 1 else tenTo e.toNat
  let fine := if e ≤ 0 then tenTo (-e).toNat else 1
  -- the point `k · 10^e` is `k · coarse / fine`
  let below := s.mid * fine / (s.den * coarse)
  let above := below + 1
  let hit (k : Nat) : Bool := s.holds (k * coarse) fine
  let low := s.mid * fine - below * (s.den * coarse)
  let high := above * (s.den * coarse) - s.mid * fine
  if hit below && (!hit above || low < high) then some below
  else if hit above then some above
  else none

/-- The greatest `e` with `10^e ≤ num / den`, searched downward from a bound
on it. -/
def decimalOrder (num den : Nat) : Nat → Int → Int
  | 0, e => e
  | fuel + 1, e =>
    let reached := if e ≤ 0 then den ≤ num * tenTo (-e).toNat else den * tenTo e.toNat ≤ num
    if reached then e else decimalOrder num den fuel (e - 1)

/-- The first grid with a hit, from the one of the leading digit on. -/
def Span.firstHit (s : Span) : Nat → Int → Digits
  | 0, e => ⟨s.onGrid? e |>.getD 0, e⟩
  | fuel + 1, e =>
    match s.onGrid? e with
    | some k => ⟨k, e⟩
    | none => Span.firstHit s fuel (e - 1)

/-- The digits without the zeros at their end. -/
def Digits.stripped (d : Digits) : Nat → Digits
  | 0 => d
  | fuel + 1 =>
    if d.digits ≠ 0 ∧ d.digits % 10 = 0 then
      Digits.stripped ⟨d.digits / 10, d.exponent + 1⟩ fuel
    else d

/-- The shortest digits of the positive number `m · 2^q`. A binary digit is
worth 0.30103 decimal ones, so a number of `b` binary digits has its leading
decimal digit at or just below the power `0.30103 · b + 1`; the search for it
starts there. -/
def Format.shortest (f : Format) (m : Nat) (q : Int) : Digits :=
  let s := f.span m q
  let bits : Int := m.log2 + 1 + q
  let order := decimalOrder s.mid s.den 4 (bits * 30103 / 100000 + 1)
  (s.firstHit (f.fraction + 1) order).stripped (f.fraction + 2)

end Decimal
end SceneScript
