import SceneScript.Engine.Session
import SceneScript.Markup.Parse
/-!
# Engine — loading documents

Loading reads a document, puts the libraries into the registry, imports what
the document asks for, and keeps the document. Whatever can fail does so
before anything changes. A library whose namespace exists already is passed
over, so that a registry is filled once however many documents are loaded.
-/

namespace SceneScript
namespace Session

variable {n : Nat} {κ α γ : Type}

/-- Puts one library into the registry, unless its namespace exists. Its
namespace exists afterwards, whatever the library fills. -/
def loadLibrary (s : Session n κ α γ) (library : Library n κ α γ) : Session n κ α γ :=
  if s.registry.isCreated (s.registry.root ++ "." ++ library.name) then s
  else
    let (registry, world) := library.populate s.id s.registry s.world
    { s with registry := registry.create library.name, world }

/-- Puts every library of the engine into the registry, in order. -/
def loadLibraries (s : Session n κ α γ) : Session n κ α γ :=
  s.engine.libraries.foldl loadLibrary s

/-- The scenes that a document declares, in order. -/
def scenesOf (document : Markup.Node) : List Markup.Node :=
  document.childrenNamed "scene"

/-- The name of a scene without one: its place among the scenes. -/
def defaultSceneName (i : Nat) : String :=
  "Scene_" ++ toString i

/-- The name of the scene at a place among the scenes. -/
def sceneName (i : Nat) (scene : Markup.Node) : String :=
  (scene.attr? "name").getD (defaultSceneName i)

/-- The name of the scene to start with: the one that the document names, or
else its first one. -/
def startScene? (document : Markup.Node) : Option String :=
  (document.attr? "startScene").or ((scenesOf document).head?.map (sceneName 0))

/-- Reads a document: its root element and the name of its start scene. -/
def readDocument (s : Session n κ α γ) (path : String) :
    Except LoadError (Markup.Node × String) := do
  let source ← s.engine.documents path
  let document ← (Markup.parse source).mapError fun e => .parse (e.inDocument path)
  match startScene? document with
  | some start => .ok (document, start)
  | none => .error (.noScenes path)

/-- The namespaces that a document imports. -/
def importsOf (document : Markup.Node) : List String :=
  (document.childrenNamed "import").filterMap (·.attr? "namespace")

/-- Takes a document into use. A scene on the stage stays there. -/
def installDocument (s : Session n κ α γ) (document : Markup.Node) : Session n κ α γ :=
  let engine := (importsOf document).foldl Engine.addImport s.engine
  { s with engine := { engine with
      document := some document
      phase := if engine.stage.scene.isNone then .parsed else engine.phase } }

/-- Loads a document without rendering it: the name of its start scene, and
the session after it. -/
def loadFile (s : Session n κ α γ) (path : String) :
    Except LoadError (String × Session n κ α γ) := do
  let (document, start) ← s.readDocument path
  pure (start, s.loadLibraries.installDocument document)

end Session
end SceneScript
