import SceneScript.Geometry
import SceneScript.Named
/-!
# Assets — drawables and the skin

A host supplies the service that loads the pictures of a skin. The engine
tells it which skin to use, asks it to load, and releases it in the end;
directives ask it for drawables by name. `SkinAssets` is the service that
comes with the library: it knows the drawables that were registered, and
cannot be loaded again once it was released.
-/

namespace SceneScript

/-- A picture that can be drawn. -/
structure Drawable where
  name : String
  size : Vec2

/-- Why assets could not be loaded. -/
structure AssetError where
  cause : String

/-- The wording of a failure to load assets. -/
def AssetError.message (e : AssetError) : String :=
  "asset loading failed: " ++ e.cause

/-- A service for the assets of a skin. A load that fails leaves the service
as it was. -/
class AssetService (α : Type) where
  /-- The path of the skin in use. -/
  skinPath : α → Option String
  /-- Takes another skin into use. -/
  setSkinPath : Option String → α → α
  /-- Loads the assets of the skin in use. -/
  load : α → Except AssetError α
  /-- Releases what is loaded. -/
  dispose : α → α
  /-- The drawable of a name. -/
  drawable? : α → String → Option Drawable := fun _ _ => none

/-- A service that serves registered drawables. -/
structure SkinAssets where
  skinPath : Option String := none
  drawables : Named Drawable := []
  loaded : Bool := false
  disposed : Bool := false

namespace SkinAssets

/-- The service with one more drawable, in place of the one of its name. -/
def register (assets : SkinAssets) (name : String) (size : Vec2) : SkinAssets :=
  { assets with drawables := assets.drawables.put name ⟨name, size⟩ }

/-- The service, loaded; once released it cannot be. -/
def load (assets : SkinAssets) : Except AssetError SkinAssets :=
  if assets.disposed then .error ⟨"asset service already disposed"⟩
  else .ok { assets with loaded := true }

/-- The service without its drawables, for good. -/
def dispose (assets : SkinAssets) : SkinAssets :=
  { assets with drawables := [], loaded := false, disposed := true }

instance : AssetService SkinAssets where
  skinPath := skinPath
  setSkinPath path assets := { assets with skinPath := path }
  load := load
  dispose := dispose
  drawable? assets name := assets.drawables.get? name

end SkinAssets

end SceneScript
