import SceneScript.Geometry
/-!
# Actors — fades

An actor's opacity is animated by a queue of fades. Only the first one runs;
it takes the opacity it finds when its turn comes as its start, and hands on
what is left of the step when it is over. Fades without a duration are over
at once, even in a step of no length.
-/

namespace SceneScript

/-- An animation of the opacity. -/
structure Fade where
  /-- The opacity at the start, once the fade has started. -/
  start : Option Float32 := none
  target : Float32
  /-- How long the fade takes, in seconds. -/
  duration : Float32
  /-- How much of that has passed. -/
  elapsed : Float32 := 0

namespace Fade

/-- A fade to a target brought into range. -/
def toward (target duration : Float32) : Fade :=
  { target := Scalar.clampUnit target, duration }

/-- How much of a step the fade takes up. -/
def share (fade : Fade) (remaining : Float32) : Float32 :=
  Scalar.lesser remaining (Scalar.greater (fade.duration - fade.elapsed) 0)

/-- The fade after its share of a step from a given opacity. -/
def advance (fade : Fade) (alpha remaining : Float32) : Fade :=
  { fade with
    start := some (fade.start.getD alpha)
    elapsed := fade.elapsed + fade.share remaining }

/-- How far the fade has come, from zero to one. -/
def progress (fade : Fade) : Float32 :=
  if fade.duration ≤ 0 then 1 else Scalar.lesser (fade.elapsed / fade.duration) 1

/-- The opacity the fade has reached. -/
def alpha (fade : Fade) (start : Float32) : Float32 :=
  start + (fade.target - start) * fade.progress

/-- Runs a queue for a step: the opacity reached, and the fades left. -/
def run (alpha remaining : Float32) : List Fade → Float32 × List Fade
  | [] => (alpha, [])
  | fade :: rest =>
    if 0 < remaining ∨ fade.duration ≤ 0 then
      let moved := fade.advance alpha remaining
      let reached := moved.alpha (fade.start.getD alpha)
      if 1 ≤ moved.progress then run reached (remaining - fade.share remaining) rest
      else (reached, moved :: rest)
    else (alpha, fade :: rest)

end Fade

end SceneScript
