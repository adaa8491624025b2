import SceneScript.Decimal.Numeral
/-!
# Frames — the clock of the frame loop

A host says how much time has passed since the last frame, in nanoseconds.
The clock brings it between two bounds, so that neither a stalled nor a
breathless host disturbs an animation, and counts the frames.
-/

namespace SceneScript

/-- Nanoseconds in a second. -/
def nanosPerSecond : Nat := 1000000000

/-- A duration in seconds: the whole seconds and the rest are converted each
on its own. -/
def secondsOf (nanos : Nat) : Float32 :=
  Decimal.singleOfNat (nanos / nanosPerSecond) +
    Decimal.singleOfNat (nanos % nanosPerSecond) / Decimal.singleOfNat nanosPerSecond

/-- A number of seconds as a duration, to the nearest nanosecond, a half going
to the even one. There is none for a negative number, for what is no number,
and beyond `2 ^ 64` seconds. -/
def nanosOf? (seconds : Float32) : Option Nat :=
  match Decimal.Format.single.decode seconds.toBits.toNat with
  | .finite negative m q =>
    if m = 0 then some 0
    else if negative then none
    else
      let scaled := Decimal.scaleBinary (m * nanosPerSecond) 1 (-q)
      let nanos := Decimal.nearestEven scaled.1 scaled.2
      if nanos / nanosPerSecond < UInt64.size then some nanos else none
  | _ => none

/-- The clock of a frame loop. -/
structure FrameClock where
  /-- The least duration of a frame, in nanoseconds. -/
  least : Nat := 100000
  /-- The greatest. -/
  greatest : Nat := 250000000
  /-- The number of the next frame. -/
  frame : UInt64 := 0

namespace FrameClock

/-- One frame after the given time: how long it counts, in seconds, and the
clock of the next frame. -/
def tick (clock : FrameClock) (elapsed : Nat) : Float32 × FrameClock :=
  let counted := min (max elapsed clock.least) clock.greatest
  (secondsOf counted, { clock with frame := clock.frame + 1 })

end FrameClock

end SceneScript
