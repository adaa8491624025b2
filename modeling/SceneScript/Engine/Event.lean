import SceneScript.Engine.Render
/-!
# Engine — events

An event is delivered to an actor, by name or by a point of the stage. The
action that the actor binds to it goes to the controller of the scene, or to
the root controller when the scene has none, which may ask for another scene
at once. An event at a point goes to the innermost actor there that binds it.
A click turns over the mark of the check box it is delivered to.
-/

namespace SceneScript
namespace Session

variable {n : Nat} {κ α γ : Type}

/-- The controller that actions go to. -/
def actionController? (s : Session n κ α γ) : Option κ :=
  s.sceneController?.or s.scope.root

/-- Sends an action to the controller in question: whether there is one, and
the session after it. -/
def dispatch (cast : κ → Controller κ α γ) (s : Session n κ α γ) (action : String) :
    Bool × Session n κ α γ :=
  match s.engine.stage.scene, s.actionController? with
  | some scene, some controller =>
    let (scene, requested, s) := s.runHook ((cast controller).action action) scene
    (true, (s.setStage { s.engine.stage with scene := some scene }).follow cast requested)
  | _, _ => (false, s)

/-- Delivers an event to the actor at a path of the scene: whether an action
was sent, and the session after it. -/
def firePath (cast : κ → Controller κ α γ) (s : Session n κ α γ) (path : List Nat)
    (event : String) : Bool × Session n κ α γ :=
  match s.engine.stage.scene.bind fun scene => (scene.atPath? path).map (scene, ·) with
  | none => (false, s)
  | some (scene, actor) =>
    let s := if Text.alike event "click" then
        s.setStage { s.engine.stage with scene := some (scene.editAt Actor.toggled path) }
      else s
    match actor.base.binding? event with
    | some action => s.dispatch cast action
    | none => (false, s)

/-- Delivers an event to the first actor of a name. -/
def fire (cast : κ → Controller κ α γ) (s : Session n κ α γ) (name event : String) :
    Bool × Session n κ α γ :=
  match s.engine.stage.scene.bind (·.pathOf? name) with
  | some path => s.firePath cast path event
  | none => (false, s)

/-- The longest beginning of a path that leads to an actor that binds an event,
searched from a length downward. -/
def bindingPath? (scene : Scene) (event : String) (path : List Nat) : Nat → Option (List Nat)
  | 0 => none
  | length + 1 =>
    let here := path.take (length + 1)
    if (scene.atPath? here).any fun actor => (actor.base.binding? event).isSome then some here
    else bindingPath? scene event path length

/-- Delivers an event at a point of the stage. It goes to the innermost actor
there that binds it, or to the innermost one when none does. -/
def fireAt (cast : κ → Controller κ α γ) (s : Session n κ α γ) (point : Vec2)
    (event : String) : Bool × Session n κ α γ :=
  match s.engine.stage.scene.bind fun scene => (scene.hit? point).map (scene, ·) with
  | some (scene, path) =>
    s.firePath cast ((bindingPath? scene event path path.length).getD path) event
  | none => (false, s)

end Session
end SceneScript
