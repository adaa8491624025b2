import SceneScript.Actor.Path
/-!
# Scenes

A scene is a named tree of actors with the name of the controller it
declares. It fills the stage, and its actors are placed relative to it.
-/

namespace SceneScript

/-- A scene. -/
structure Scene where
  base : Base
  /-- The name of the controller, if the scene declares one. -/
  controller : Option String
  actors : List Actor := []

namespace Scene

/-- A scene without actors. -/
def named (name : String) (controller : Option String) : Scene :=
  { base := { name := some name, fillParent := true }, controller }

/-- The name of a scene. -/
def name (scene : Scene) : String :=
  scene.base.name.getD ""

/-- The scene with one more actor, painted last. -/
def add (scene : Scene) (actor : Actor) : Scene :=
  { scene with actors := scene.actors ++ [actor] }

/-- The first actor of a name, in painting order. -/
def find? (scene : Scene) (name : String) : Option Actor :=
  Actor.find? name scene.actors

/-- The path to the first actor of a name. -/
def pathOf? (scene : Scene) (name : String) : Option (List Nat) :=
  Actor.pathOf? scene.actors name

/-- The actor at a path. -/
def atPath? (scene : Scene) (path : List Nat) : Option Actor :=
  Actor.atPath? scene.actors path

/-- The scene with the actor at a path edited. -/
def editAt (scene : Scene) (edit : Actor → Actor) (path : List Nat) : Scene :=
  { scene with actors := Actor.editAt edit scene.actors path }

/-- The path to the last painted actor at a point of the stage. -/
def hit? (scene : Scene) (point : Vec2) : Option (List Nat) :=
  Actor.hit? scene.actors (scene.base.bounds.toLocal point)

/-- Runs the scene and its actors for a step of `dt` seconds. -/
def act (scene : Scene) (dt : Float32) : Scene :=
  { scene with base := scene.base.act dt, actors := Actor.actEach dt scene.actors }

end Scene

end SceneScript
