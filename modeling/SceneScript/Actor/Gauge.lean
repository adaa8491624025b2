import SceneScript.Geometry
/-!
# Actors — sliders and progress bars

Both hold a value in a range. A range given the wrong way round is turned; a
lower bound that is not finite becomes zero, and such an upper bound falls
onto the lower one. A slider moves in steps counted from its lower end; a
progress bar shows a value of its own, which follows the true one at a given
speed.
-/

namespace SceneScript

/-- The ends of a range. -/
structure Range where
  low : Float32
  high : Float32

namespace Range

/-- The range between two bounds. A lower bound that is not finite becomes
zero, and an upper bound that is not finite falls onto the lower one. -/
def between (a b : Float32) : Range :=
  let a := if a.isFinite then a else 0
  let b := if b.isFinite then b else a
  if a ≤ b then ⟨a, b⟩ else ⟨b, a⟩

/-- A value brought into the range. -/
def clamp (range : Range) (value : Float32) : Float32 :=
  Scalar.clamp range.low range.high value

/-- Where a value lies in the range, from zero to one; zero in a range of no
extent. -/
def fraction (range : Range) (value : Float32) : Float32 :=
  if (range.high - range.low).abs < Scalar.epsilon then 0
  else Scalar.clampUnit ((value - range.low) / (range.high - range.low))

end Range

/-- A value that moves in steps. -/
structure Slider where
  range : Range
  /-- The distance between values; there are no steps when it is not positive. -/
  step : Float32
  value : Float32
  vertical : Bool := false

namespace Slider

/-- A slider at its lower end. -/
def ofBounds (a b step : Float32) : Slider :=
  let range := Range.between a b
  { range, step := if step.isFinite then step else 0, value := range.low }

/-- The value that the slider takes when asked for another: brought into the
range, and onto the nearest step that is not past the upper end. -/
def snap (slider : Slider) (value : Float32) : Float32 :=
  let value := slider.range.clamp value
  if 0 < slider.step then
    let low := slider.range.low
    Scalar.lesser (low + ((value - low) / slider.step).round * slider.step) slider.range.high
  else value

/-- The slider asked for a value; what is no number leaves it as it is. -/
def setValue (slider : Slider) (value : Float32) : Slider :=
  if value.isNaN then slider else { slider with value := slider.snap value }

/-- Whether the slider would move when asked for a value. -/
def moves (slider : Slider) (value : Float32) : Bool :=
  !value.isNaN && slider.snap value != slider.value

/-- Where the slider stands, from zero to one. -/
def fraction (slider : Slider) : Float32 :=
  slider.range.fraction slider.value

end Slider

/-- A value shown as a bar. -/
structure ProgressBar where
  range : Range
  value : Float32
  /-- The value that is shown. -/
  shown : Float32
  /-- How fast the shown value follows, per second; zero when it jumps. -/
  speed : Float32 := 0

namespace ProgressBar

/-- An empty bar. -/
def ofBounds (a b : Float32) : ProgressBar :=
  let range := Range.between a b
  { range, value := range.low, shown := range.low }

/-- The bar with a speed; one that is not finite and positive is none. -/
def withSpeed (bar : ProgressBar) (speed : Float32) : ProgressBar :=
  { bar with speed := if speed.isFinite then Scalar.greater speed 0 else 0 }

/-- The bar starting from a value, which is shown at once. -/
def startAt (bar : ProgressBar) (value : Float32) : ProgressBar :=
  if value.isNaN then bar
  else { bar with value := bar.range.clamp value, shown := bar.range.clamp value }

/-- The bar given a value, which is shown at once only without a speed. -/
def setValue (bar : ProgressBar) (value : Float32) : ProgressBar :=
  if value.isNaN then bar
  else
    let value := bar.range.clamp value
    { bar with value, shown := if bar.speed == 0 then value else bar.shown }

/-- Lets the shown value follow for a step of `dt` seconds. -/
def act (bar : ProgressBar) (dt : Float32) : ProgressBar :=
  let step := bar.speed * dt
  let gap := bar.value - bar.shown
  { bar with shown := if gap.abs ≤ step then bar.value else bar.shown + Scalar.withSign step gap }

/-- How full the bar is shown, from zero to one. -/
def fraction (bar : ProgressBar) : Float32 :=
  bar.range.fraction bar.shown

end ProgressBar

end SceneScript
