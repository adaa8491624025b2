import SceneScript.Actor.Fade
import SceneScript.Color
import SceneScript.Text.Caseless
/-!
# Actors — what every actor has

Whatever its kind, an actor has a name or none, bounds, visibility, a tint,
a flag for filling its parent, bindings from events to actions, and a queue
of fades. Events are matched up to the case of ASCII letters, and a binding
replaces the one of its event.
-/

namespace SceneScript

/-- The part of an actor that does not depend on its kind. -/
structure Base where
  name : Option String := none
  bounds : Rect := .zero
  visible : Bool := true
  color : Color := .white
  fillParent : Bool := false
  /-- Events with the action of each. -/
  bindings : List (String × String) := []
  fades : List Fade := []

namespace Base

/-- Bindings with the action of an event set: in place of the first one of
the event, or at the end. -/
def rebind (event action : String) : List (String × String) → List (String × String)
  | [] => [(event, action)]
  | (key, old) :: rest =>
    if Text.alike key event then (key, action) :: rest else (key, old) :: rebind event action rest

/-- Binds an event to an action. -/
def bind (base : Base) (event action : String) : Base :=
  { base with bindings := rebind event action base.bindings }

/-- The action bound to an event. -/
def binding? (base : Base) (event : String) : Option String :=
  (base.bindings.find? fun entry => Text.alike entry.1 event).map (·.2)

/-- Queues a fade. -/
def fadeTo (base : Base) (target duration : Float32) : Base :=
  { base with fades := base.fades ++ [Fade.toward target duration] }

/-- Whether a fade is queued. -/
def isAnimating (base : Base) : Bool :=
  !base.fades.isEmpty

/-- Runs the fades for a step of `dt` seconds. -/
def act (base : Base) (dt : Float32) : Base :=
  let (alpha, fades) := Fade.run base.color.alpha dt base.fades
  { base with color := { base.color with alpha }, fades }

end Base

end SceneScript
