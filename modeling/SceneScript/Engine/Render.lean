import SceneScript.Engine.Load
/-!
# Engine — rendering a scene

Rendering replaces the scene on the stage. The old scene leaves first, still
with its controller and its variables; then the stage is cleared, the scope
is emptied and the controller of the new scene put in charge; then the new
scene is built, enters, and goes onto the stage. A name that ends like a
document's is loaded first and stands for the start scene of the document.
-/

namespace SceneScript
namespace Session

variable {n : Nat} {κ α γ : Type}

/-- The first scene of a name, in any case of ASCII letters, where the list
starts at place `i`; with the name as it was declared. -/
def findSceneFrom? (name : String) (i : Nat) : List Markup.Node → Option (String × Markup.Node)
  | [] => none
  | scene :: rest =>
    if Text.alike (sceneName i scene) name then some (sceneName i scene, scene)
    else findSceneFrom? name (i + 1) rest

/-- The first scene of a name in the document in use. -/
def findScene? (s : Session n κ α γ) (name : String) : Option (String × Markup.Node) :=
  s.engine.document.bind fun document => findSceneFrom? name 0 (scenesOf document)

/-- Lets the scene on the stage leave, and clears the stage. -/
def retire (cast : κ → Controller κ α γ) (s : Session n κ α γ) : Session n κ α γ :=
  let s := match s.engine.stage.scene, s.sceneController? with
    | some scene, some controller =>
      let (_, requested, s) := s.runHook (cast controller).exit scene
      s.setPending requested
    | _, _ => s
  s.setStage s.engine.stage.clear

/-- Empties the scope of what belongs to a scene, and puts the controller of a
name in charge. -/
def rebind (s : Session n κ α γ) (controller : Option String) : Session n κ α γ :=
  s.setScope (((s.scope.setCurrent none).clearVariables).setCurrent controller)

/-- Builds the actors of a scene. -/
def buildScene (s : Session n κ α γ) (name : String) (definition : Markup.Node) :
    Scene × Session n κ α γ :=
  let (actors, world) := (s.registry.resolveChildren s.engine.imports definition).run s.world
  ({ Scene.named name (definition.attr? "controller") with actors }, { s with world })

/-- Tells the controller in charge that a scene enters. -/
def enter (cast : κ → Controller κ α γ) (s : Session n κ α γ) (scene : Scene) :
    Scene × Session n κ α γ :=
  match s.scope.current with
  | some (_, controller) =>
    let (scene, requested, s) := s.runHook (cast controller).enter scene
    (scene, s.setPending requested)
  | none => (scene, s)

/-- Puts a scene that has entered onto the stage. -/
def attach (s : Session n κ α γ) (name : String) (scene : Scene) : Session n κ α γ :=
  { s with engine := { s.engine with
      stage := s.engine.stage.attach scene, lastRendered := some name, phase := .active } }

/-- Replaces the scene on the stage by one of the document in use. -/
def switchScene (cast : κ → Controller κ α γ) (s : Session n κ α γ) (name : String)
    (definition : Markup.Node) : Session n κ α γ :=
  let s := (s.setPhase .sceneSelected).retire cast
  let s := s.rebind (definition.attr? "controller")
  let (scene, s) := s.buildScene name definition
  let (scene, s) := (s.setPhase .built).enter cast scene
  s.attach name scene

/-- Renders the scene of a name: whether there is one, and the session after
it. It fails only where a document has to be loaded, and then before anything
changes. -/
def renderScene (cast : κ → Controller κ α γ) (s : Session n κ α γ) (name : String) :
    Except LoadError (Bool × Session n κ α γ) := do
  let (name, s) ← if s.engine.config.isDocumentName name then s.loadFile name else pure (name, s)
  match s.findScene? name with
  | none => pure (false, s)
  | some (name, definition) => pure (true, s.switchScene cast name definition)

/-- Renders a scene that was asked for, and lets the matter rest when there is
none. -/
def switchTo (cast : κ → Controller κ α γ) (s : Session n κ α γ) (name : String) :
    Session n κ α γ :=
  match s.renderScene cast name with
  | .ok (_, s) => s
  | .error _ => s

/-- Renders the scene that a hook asked for, if it asked for one. -/
def follow (cast : κ → Controller κ α γ) (s : Session n κ α γ) (requested : Option String) :
    Session n κ α γ :=
  match requested with
  | some name => s.switchTo cast name
  | none => s

/-- Loads the index document, takes its skin into use, and renders its start
scene, whose name is the answer. When the assets of the skin cannot be loaded,
the skin before it is taken back. -/
def loadStage [AssetService α] (cast : κ → Controller κ α γ) (s : Session n κ α γ) :
    Except LoadError String × Session n κ α γ :=
  match s.readDocument s.engine.config.indexDocument with
  | .error e => (.error e, s)
  | .ok (document, start) =>
    let before := AssetService.skinPath s.assets
    let skinned := AssetService.setSkinPath (document.attr? "skin") s.assets
    match AssetService.load skinned with
    | .error e => (.error (.asset e), s.setAssets (AssetService.setSkinPath before skinned))
    | .ok assets =>
      let s := (s.setAssets assets).loadLibraries.installDocument document
      match s.renderScene cast start with
      | .ok (_, s) => (.ok start, s)
      | .error e => (.error e, s)

end Session
end SceneScript
