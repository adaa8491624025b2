import SceneScript.Builtin.Attributes
import SceneScript.Builtin.Elements
import SceneScript.Config
import SceneScript.Engine.Controller
import SceneScript.Engine.World
import SceneScript.FrameClock
import SceneScript.Source
import SceneScript.Stage
/-!
# Engine — sessions

An engine holds a configuration, a source of documents, the libraries it was
given, the namespaces it imports, a stage, a clock, the document in use, and
how far it has come. A session is an engine at work: the engine, the registry
it uses, and the world around both. Every operation takes a session to a
session.
-/

namespace SceneScript

variable {n : Nat} {κ α γ : Type}

/-- How far an engine has come. -/
inductive Phase where
  /-- There is no document yet. -/
  | unloaded
  /-- There is a document, and no scene on the stage yet. -/
  | parsed
  /-- A scene is chosen, and the one before is leaving. -/
  | sceneSelected
  /-- The scene is built, and not on the stage yet. -/
  | built
  /-- There is a scene on the stage. -/
  | active
deriving DecidableEq, Repr

/-- A unit of registration: the namespace it is for, and how it fills the
registry for an engine. -/
structure Library (n : Nat) (κ α γ : Type) where
  /-- The dotted path of the namespace. -/
  name : String
  /-- The registry and the world once the library has been put in on behalf of
  an engine. -/
  populate : Fin n → Registry (World n κ α γ) → World n κ α γ →
    Registry (World n κ α γ) × World n κ α γ

namespace Library

/-- The path of the built-in namespace. -/
def builtinName : String := "stagecraft.scene2d"

/-- The built-in library. Its pictures are those of the engine that put it
in. -/
def builtin [AssetService α] : Library n κ α γ where
  name := builtinName
  populate i registry world :=
    let drawable? (world : World n κ α γ) (name : String) : Option Drawable :=
      AssetService.drawable? (world.office i).assets name
    (registry.add builtinName (Builtin.elements drawable?) Builtin.attributes, world)

end Library

/-- An engine, apart from its registry and its office. -/
structure Engine (n : Nat) (κ α γ : Type) where
  config : Config
  documents : DocumentSource
  libraries : List (Library n κ α γ) := []
  /-- The paths of the imported namespaces, in the order they are tried. -/
  imports : List String := []
  stage : Stage
  clock : FrameClock := {}
  /-- The root element of the document in use. -/
  document : Option Markup.Node := none
  /-- The name of the scene that was rendered last. -/
  lastRendered : Option String := none
  /-- The scene that an entering or leaving scene asked for. -/
  pending : Option String := none
  phase : Phase := .unloaded

namespace Engine

/-- Registers a library after the others. -/
def addLibrary (engine : Engine n κ α γ) (library : Library n κ α γ) : Engine n κ α γ :=
  { engine with libraries := engine.libraries ++ [library] }

/-- Imports a namespace after the others, unless it is imported already. -/
def addImport (engine : Engine n κ α γ) (name : String) : Engine n κ α γ :=
  if name ∈ engine.imports then engine else { engine with imports := engine.imports ++ [name] }

/-- Registers and imports the built-in library. -/
def addBuiltin [AssetService α] (engine : Engine n κ α γ) : Engine n κ α γ :=
  (engine.addLibrary Library.builtin).addImport Library.builtinName

/-- A new engine, with the built-in library if the configuration wants it. -/
def ofConfig [AssetService α] (config : Config) (documents : DocumentSource) : Engine n κ α γ :=
  let engine : Engine n κ α γ := { config, documents, stage := { viewport := config.viewport } }
  if config.loadDefaultLibraries then engine.addBuiltin else engine

end Engine

/-- An engine at work. -/
structure Session (n : Nat) (κ α γ : Type) where
  /-- Which of the engines of the world it is. -/
  id : Fin n
  engine : Engine n κ α γ
  registry : Registry (World n κ α γ)
  world : World n κ α γ

namespace Session

/-- The scope of the engine. -/
def scope (s : Session n κ α γ) : Scope κ :=
  (s.world.office s.id).scope

/-- The asset service of the engine. -/
def assets (s : Session n κ α γ) : α :=
  (s.world.office s.id).assets

/-- The session with another scope. -/
def setScope (s : Session n κ α γ) (scope : Scope κ) : Session n κ α γ :=
  { s with world := s.world.setOffice s.id { s.world.office s.id with scope } }

/-- The session with another asset service. -/
def setAssets (s : Session n κ α γ) (assets : α) : Session n κ α γ :=
  { s with world := s.world.setOffice s.id { s.world.office s.id with assets } }

/-- The session with another stage. -/
def setStage (s : Session n κ α γ) (stage : Stage) : Session n κ α γ :=
  { s with engine := { s.engine with stage } }

/-- The session in another phase. -/
def setPhase (s : Session n κ α γ) (phase : Phase) : Session n κ α γ :=
  { s with engine := { s.engine with phase } }

/-- The session with a scene asked for, if one was; otherwise what was asked
for before stands. -/
def setPending (s : Session n κ α γ) (requested : Option String) : Session n κ α γ :=
  { s with engine := { s.engine with pending := requested.or s.engine.pending } }

/-- Runs a hook on a scene: the scene it leaves, the scene it asks for, and
the session after it. -/
def runHook (s : Session n κ α γ) (hook : Hook κ α γ) (scene : Scene) :
    Scene × Option String × Session n κ α γ :=
  let office := s.world.office s.id
  let cue := hook { scene, scope := office.scope, assets := office.assets, host := s.world.host }
  let world := { s.world with host := cue.host }
  (cue.scene, cue.requested,
    { s with world := world.setOffice s.id ⟨cue.scope, cue.assets⟩ })

/-- The actor that a node becomes through the imports of the engine. -/
def createActor (s : Session n κ α γ) (node : Markup.Node) :
    Option Actor × Session n κ α γ :=
  let (actor, world) := (s.registry.resolve s.engine.imports node).run s.world
  (actor, { s with world })

/-- The controller of the scene on the stage: the one registered under the
name that the scene declares. -/
def sceneController? (s : Session n κ α γ) : Option κ :=
  s.engine.stage.scene.bind fun scene => scene.controller.bind s.scope.controller?

end Session

end SceneScript
