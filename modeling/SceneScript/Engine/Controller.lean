import SceneScript.Scene
import SceneScript.Scope
/-!
# Engine — controllers

A controller accompanies a scene: it is told when the scene enters, at every
frame, when an action is due, and when the scene leaves. Each of these hooks
may change the scene, the scope, the assets and the host's own state, and may
ask for another scene. A hook that does nothing leaves all as it is.
-/

namespace SceneScript

/-- What a hook works on. -/
structure Cue (κ α γ : Type) where
  scene : Scene
  scope : Scope κ
  assets : α
  host : γ
  /-- The scene asked for last: a scene name or the name of a document. -/
  requested : Option String := none

namespace Cue

variable {κ α γ : Type}

/-- Asks for another scene. -/
def request (cue : Cue κ α γ) (name : String) : Cue κ α γ :=
  { cue with requested := some name }

end Cue

/-- What a controller does on an occasion. -/
abbrev Hook (κ α γ : Type) := Cue κ α γ → Cue κ α γ

/-- The hooks of a controller. -/
structure Controller (κ α γ : Type) where
  /-- The scene is built and not yet on the stage. -/
  enter : Hook κ α γ := id
  /-- A frame of the given number of seconds has passed. -/
  update : Float32 → Hook κ α γ := fun _ => id
  /-- The scene is about to be replaced. -/
  exit : Hook κ α γ := id
  /-- An event bound to the given action has been fired. -/
  action : String → Hook κ α γ := fun _ => id

end SceneScript
