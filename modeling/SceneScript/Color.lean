import SceneScript.Geometry
import SceneScript.Markup.Literal
/-!
# Color — tints

A colour has three components and an opacity, each from zero to one. The
constructors bring every component into that range; what is no number stays.
-/

namespace SceneScript

/-- A colour with straight opacity. -/
structure Color where
  red : Float32
  green : Float32
  blue : Float32
  alpha : Float32

namespace Color

/-- Opaque white, which leaves what it tints as it is. -/
def white : Color := ⟨1, 1, 1, 1⟩

/-- Transparent black. -/
def transparent : Color := ⟨0, 0, 0, 0⟩

/-- A colour of the given components, brought into range. -/
def straight (red green blue alpha : Float32) : Color :=
  ⟨Scalar.clampUnit red, Scalar.clampUnit green, Scalar.clampUnit blue, Scalar.clampUnit alpha⟩

/-- A colour of four bytes, the greatest of which is one. -/
def ofBytes (bytes : Markup.ColorBytes) : Color :=
  let part (byte : Nat) : Float32 := Decimal.singleOfNat byte / 255
  straight (part bytes.red) (part bytes.green) (part bytes.blue) (part bytes.alpha)

/-- The colour with another opacity, brought into range. -/
def withAlpha (c : Color) (alpha : Float32) : Color :=
  { c with alpha := Scalar.clampUnit alpha }

/-- Whether every component is a finite number. -/
def isFinite (c : Color) : Bool :=
  c.red.isFinite && c.green.isFinite && c.blue.isFinite && c.alpha.isFinite

end Color

end SceneScript
