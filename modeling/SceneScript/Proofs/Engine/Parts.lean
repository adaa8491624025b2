import SceneScript.Engine.Render
/-!
# Engine — the parts of a session

A hook and a directive reach a session through its office alone: the scope
and the asset service. The lemmas here say what stands in the office after a
change to one of the two, what a hook is told (`cue`), and how a session
picks up what the hook made of it (`resume`).
-/

namespace SceneScript

namespace Session

variable {n : Nat} {κ α γ : Type}

/-- An engine on its own, with nothing done yet: a fresh registry and an empty
scope. -/
def solo [AssetService α] (config : Config) (documents : DocumentSource) (assets : α) (host : γ) :
    Session 1 κ α γ where
  id := ⟨0, Nat.one_pos⟩
  engine := Engine.ofConfig config documents
  registry := { root := config.rootNamespace }
  world := { offices := #v[{ scope := {}, assets }], host }

/-! ## The office of a session -/

@[simp] theorem scope_setScope (s : Session n κ α γ) (scope : Scope κ) :
    (s.setScope scope).scope = scope := by
  simp [Session.scope, setScope]

@[simp] theorem assets_setScope (s : Session n κ α γ) (scope : Scope κ) :
    (s.setScope scope).assets = s.assets := by
  simp [Session.assets, setScope]

@[simp] theorem scope_setAssets (s : Session n κ α γ) (assets : α) :
    (s.setAssets assets).scope = s.scope := by
  simp [Session.scope, setAssets]

@[simp] theorem assets_setAssets (s : Session n κ α γ) (assets : α) :
    (s.setAssets assets).assets = assets := by
  simp [Session.assets, setAssets]

/-- The later of two scopes stands. -/
@[simp] theorem setScope_setScope (s : Session n κ α γ) (a b : Scope κ) :
    (s.setScope a).setScope b = s.setScope b := by
  simp [setScope]

/-! ## What a hook is told -/

/-- What a hook is told about a scene. -/
def cue (s : Session n κ α γ) (scene : Scene) : Cue κ α γ where
  scene := scene
  scope := s.scope
  assets := s.assets
  host := s.world.host

/-- The session with what a hook made of its cue. -/
def resume (s : Session n κ α γ) (cue : Cue κ α γ) : Session n κ α γ :=
  let world := { s.world with host := cue.host }
  { s with world := world.setOffice s.id ⟨cue.scope, cue.assets⟩ }

/-- A hook runs on its cue and nothing else. -/
theorem runHook_eq (s : Session n κ α γ) (hook : Hook κ α γ) (scene : Scene) :
    s.runHook hook scene = ((hook (s.cue scene)).scene, (hook (s.cue scene)).requested,
      s.resume (hook (s.cue scene))) := rfl

end Session

end SceneScript
