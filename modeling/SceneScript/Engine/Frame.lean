import SceneScript.Engine.Render
/-!
# Engine — frames and the end

At each frame the scene that an entering or leaving scene asked for is
rendered first; then the actors run, and the controller of the scene is told,
which may ask for another scene at once. Disposing of an engine empties its
stage and releases its assets.
-/

namespace SceneScript
namespace Session

variable {n : Nat} {κ α γ : Type}

/-- Renders the scene that is waiting, if one is. -/
def followPending (cast : κ → Controller κ α γ) (s : Session n κ α γ) : Session n κ α γ :=
  ({ s with engine := { s.engine with pending := none } } : Session n κ α γ).follow cast
    s.engine.pending

/-- Tells the controller of the scene that a frame has passed, and renders the
scene it asks for. -/
def updateScene (cast : κ → Controller κ α γ) (s : Session n κ α γ) (dt : Float32) :
    Session n κ α γ :=
  match s.engine.stage.scene, s.sceneController? with
  | some scene, some controller =>
    let (scene, requested, s) := s.runHook ((cast controller).update dt) scene
    (s.setStage { s.engine.stage with scene := some scene }).follow cast requested
  | _, _ => s

/-- One frame of `dt` seconds. -/
def step (cast : κ → Controller κ α γ) (s : Session n κ α γ) (dt : Float32) : Session n κ α γ :=
  let s := s.followPending cast
  (s.setStage (s.engine.stage.act dt)).updateScene cast dt

/-- One frame, given the nanoseconds that have passed. -/
def update (cast : κ → Controller κ α γ) (s : Session n κ α γ) (elapsed : Nat) : Session n κ α γ :=
  let (dt, clock) := s.engine.clock.tick elapsed
  ({ s with engine := { s.engine with clock } } : Session n κ α γ).step cast dt

/-- One frame, given the seconds that have passed; a number that is no duration
counts as none. -/
def updateBy (cast : κ → Controller κ α γ) (s : Session n κ α γ) (seconds : Float32) :
    Session n κ α γ :=
  s.update cast ((nanosOf? seconds).getD 0)

/-- Empties the stage and releases the assets. -/
def dispose [AssetService α] (s : Session n κ α γ) : Session n κ α γ :=
  (s.setStage s.engine.stage.clear).setAssets (AssetService.dispose s.assets)

end Session
end SceneScript
