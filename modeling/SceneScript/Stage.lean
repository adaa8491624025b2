import SceneScript.Scene
/-!
# Stages — what is shown

A stage has a size, free actors, and at most one scene. Whatever stands
directly on the stage and fills its parent takes the size of the stage: when
it is put there, and whenever the size changes.
-/

namespace SceneScript

/-- A stage. -/
structure Stage where
  viewport : Vec2
  actors : List Actor := []
  scene : Option Scene := none

namespace Stage

/-- The base of something that stands directly on a stage of a size. -/
def place (viewport : Vec2) (base : Base) : Base :=
  if base.fillParent then { base with bounds := ⟨.zero, viewport⟩ } else base

/-- The stage with another size. -/
def setViewport (stage : Stage) (viewport : Vec2) : Stage :=
  { viewport
    actors := stage.actors.map (·.editBase (place viewport))
    scene := stage.scene.map fun scene => { scene with base := place viewport scene.base } }

/-- The stage with nothing on it. -/
def clear (stage : Stage) : Stage :=
  { stage with actors := [], scene := none }

/-- The stage with one more free actor. -/
def add (stage : Stage) (actor : Actor) : Stage :=
  { stage with actors := stage.actors ++ [actor.editBase (place stage.viewport)] }

/-- The stage with a scene, in place of the one before. -/
def attach (stage : Stage) (scene : Scene) : Stage :=
  { stage with scene := some { scene with base := place stage.viewport scene.base } }

/-- Runs the scene and the free actors for a step of `dt` seconds. -/
def act (stage : Stage) (dt : Float32) : Stage :=
  { stage with scene := stage.scene.map (·.act dt), actors := Actor.actEach dt stage.actors }

end Stage

end SceneScript
