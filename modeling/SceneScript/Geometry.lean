import SceneScript.Decimal.Numeral
/-!
# Geometry — points, rectangles and plain bounds

Coordinates are numbers of thirty-two bits, in logical pixels: `x` grows to
the right, `y` downward, and the origin of an actor is relative to the actor
around it. A rectangle holds its left and top edge and not its right and
bottom one. The choice between two numbers is spelled out here once, with
what happens to a number that is none.
-/

namespace SceneScript

/-! ## Choosing between numbers -/

namespace Scalar

/-- The greater of two numbers, or the one that is a number. Of equal numbers
the second: zero in place of minus zero, where zero is the bound. -/
def greater (a b : Float32) : Float32 :=
  if b.isNaN then a else if b < a then a else b

/-- The lesser of two numbers, or the one that is a number. Of equal numbers
the second: minus zero in place of zero, where minus zero is the bound. -/
def lesser (a b : Float32) : Float32 :=
  if b.isNaN then a else if a < b then a else b

/-- A number brought between two bounds; what is no number stays as it is. -/
def clamp (low high a : Float32) : Float32 :=
  let a := if a < low then low else a
  if high < a then high else a

/-- A number brought between zero and one. -/
def clampUnit (a : Float32) : Float32 :=
  clamp 0 1 a

/-- The size of one number with the sign of another. -/
def withSign (size sign : Float32) : Float32 :=
  if 2147483648 ≤ sign.toBits.toNat then -size.abs else size.abs

/-- The distance between one and the next number: `2 ^ -23`. -/
def epsilon : Float32 :=
  Float32.ofBits 0x34000000

end Scalar

/-! ## Points and rectangles -/

/-- A point, or the size of a rectangle. -/
structure Vec2 where
  x : Float32
  y : Float32

namespace Vec2

/-- The origin. -/
def zero : Vec2 := ⟨0, 0⟩

/-- The point moved by another. -/
def add (p q : Vec2) : Vec2 := ⟨p.x + q.x, p.y + q.y⟩

/-- The point as seen from another. -/
def sub (p q : Vec2) : Vec2 := ⟨p.x - q.x, p.y - q.y⟩

end Vec2

/-- A rectangle by its top left corner and its size. -/
structure Rect where
  origin : Vec2
  size : Vec2

namespace Rect

/-- The rectangle without extent. -/
def zero : Rect := ⟨.zero, .zero⟩

/-- The bottom right corner. -/
def corner (r : Rect) : Vec2 := r.origin.add r.size

/-- Whether a point lies in the rectangle. -/
def contains (r : Rect) (p : Vec2) : Bool :=
  r.origin.x ≤ p.x && r.origin.y ≤ p.y && p.x < r.corner.x && p.y < r.corner.y

/-- A point in the coordinates of the rectangle. -/
def toLocal (r : Rect) (p : Vec2) : Vec2 := p.sub r.origin

end Rect

end SceneScript
