import SceneScript.Engine.Event
import SceneScript.Engine.Frame
/-!
# Engine — what a host asks of it

A host works an engine by commands, one after the other; what a command
answers does not matter here, only the session it leaves (`perform`, `run`).
A session is `Reachable` when an engine comes to it from its beginning by
commands and by whatever else a host can do to it: import namespaces, supply
libraries, change the stage by hand, and change the registry, the scope, the
assets and everything else that lies outside the engine.
-/

namespace SceneScript

/-- What a host asks of an engine whose controllers are known by `κ`. -/
inductive Command (κ : Type) where
  /-- Load the index document and render its start scene. -/
  | loadStage
  /-- Load a document. -/
  | loadFile (path : String)
  /-- Render a scene, or the start scene of a document. -/
  | render (name : String)
  /-- Run a frame after the given nanoseconds. -/
  | update (elapsed : Nat)
  /-- Run a frame after the given seconds. -/
  | updateBy (seconds : Float32)
  /-- Deliver an event to an actor. -/
  | fire (actor event : String)
  /-- Deliver an event to a point. -/
  | fireAt (point : Vec2) (event : String)
  /-- Empty the stage and release the assets. -/
  | dispose
  /-- Register a controller. -/
  | register (name : String) (controller : κ)

/-- Whether a command has the engine work. Registering a controller and
disposing of the engine do not. -/
def Command.IsWork {κ : Type} : Command κ → Prop
  | .dispose => False
  | .register .. => False
  | _ => True

namespace Session

variable {n : Nat} {κ α γ : Type} [AssetService α]

/-- The session after a command. -/
def perform (cast : κ → Controller κ α γ) (s : Session n κ α γ) : Command κ → Session n κ α γ
  | .loadStage => (s.loadStage cast).2
  | .loadFile path =>
    match s.loadFile path with
    | .ok (_, s) => s
    | .error _ => s
  | .render name => s.switchTo cast name
  | .update elapsed => s.update cast elapsed
  | .updateBy seconds => s.updateBy cast seconds
  | .fire actor event => (s.fire cast actor event).2
  | .fireAt point event => (s.fireAt cast point event).2
  | .dispose => s.dispose
  | .register name controller => s.setScope (s.scope.addController name controller)

/-- The session after commands in a row. -/
def run (cast : κ → Controller κ α γ) (s : Session n κ α γ) (commands : List (Command κ)) :
    Session n κ α γ :=
  commands.foldl (perform cast) s

/-- The sessions an engine comes to in the hands of a host. -/
inductive Reachable : Session n κ α γ → Prop where
  /-- A new engine, in whatever surroundings. -/
  | fresh (id : Fin n) (config : Config) (documents : DocumentSource)
      (registry : Registry (World n κ α γ)) (world : World n κ α γ) :
      Reachable ⟨id, Engine.ofConfig config documents, registry, world⟩
  | perform {s : Session n κ α γ} (cast : κ → Controller κ α γ) (command : Command κ) :
      Reachable s → Reachable (s.perform cast command)
  | addImport {s : Session n κ α γ} (name : String) :
      Reachable s → Reachable { s with engine := s.engine.addImport name }
  | addLibrary {s : Session n κ α γ} (library : Library n κ α γ) :
      Reachable s → Reachable { s with engine := s.engine.addLibrary library }
  | setStage {s : Session n κ α γ} (stage : Stage) : Reachable s → Reachable (s.setStage stage)
  /-- What lies outside the engine is anybody's, and another engine's too. -/
  | elsewhere {s : Session n κ α γ} (registry : Registry (World n κ α γ))
      (world : World n κ α γ) : Reachable s → Reachable { s with registry, world }

/-- Commands lead from one such session to another. -/
theorem Reachable.run {s : Session n κ α γ} (h : s.Reachable) (cast : κ → Controller κ α γ)
    (commands : List (Command κ)) : (s.run cast commands).Reachable := by
  induction commands generalizing s with
  | nil => exact h
  | cons command rest ih => exact ih (h.perform cast command)

end Session

end SceneScript
