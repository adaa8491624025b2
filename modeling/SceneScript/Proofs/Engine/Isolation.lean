import SceneScript.Proofs.Engine.Switch
/-!
# Engine — a scene knows nothing of the scene before

Two sessions of one engine are `Akin` when they differ at most in what
belongs to the scene on the stage: its tree, its variables, the controller in
charge, the free actors, the name that was rendered last. Such a difference
does not survive a switch. The argument is in two steps: once the old scene
has left and the scope is emptied the sessions are `Alike`, which is all that
directives and hooks can tell of them, and alike sessions raise the same
scene (`Akin.raise`).

Where the old scene has a controller its exit hook runs first, on the old
variables, and what it does to the assets, the host and the controllers is
there to stay; the variables it sets are not (`renderScene_isolated`).
-/

namespace SceneScript

namespace Session

variable {n : Nat} {κ α γ : Type}

/-- Two states of one engine that differ at most in what belongs to the scene
on the stage. -/
structure Akin (s t : Session n κ α γ) : Prop where
  id : s.id = t.id
  config : s.engine.config = t.engine.config
  viewport : s.engine.stage.viewport = t.engine.stage.viewport
  document : s.engine.document = t.engine.document
  imports : s.engine.imports = t.engine.imports
  registry : s.registry = t.registry
  controllers : s.scope.controllers = t.scope.controllers
  root : s.scope.root = t.scope.root
  assets : s.assets = t.assets
  /-- The state of the host, with that of the controllers in it. -/
  host : s.world.host = t.world.host
  /-- The other engines. -/
  others : ∀ i, i ≠ s.id → s.world.office i = t.world.office i

/-- Two states of one engine that directives and hooks cannot tell apart. -/
structure Alike (s t : Session n κ α γ) : Prop where
  id : s.id = t.id
  viewport : s.engine.stage.viewport = t.engine.stage.viewport
  imports : s.engine.imports = t.engine.imports
  registry : s.registry = t.registry
  world : s.world = t.world

/-- Two sessions that show the same scene, and nothing else. -/
structure SameShow (s t : Session n κ α γ) : Prop where
  scene : s.engine.stage.scene = t.engine.stage.scene
  values : s.scope.values = t.scope.values
  current : s.scope.current = t.scope.current
  free : s.engine.stage.actors = []
  free' : t.engine.stage.actors = []
  lastRendered : s.engine.lastRendered = t.engine.lastRendered

variable {s t : Session n κ α γ}

/-! ## From akin to alike -/

/-- Two worlds with the same host and the same offices are the same. -/
theorem world_ext {w v : World n κ α γ} (hhost : w.host = v.host)
    (hoffice : ∀ i, w.office i = v.office i) : w = v := by
  obtain ⟨offices, host⟩ := w
  obtain ⟨offices', host'⟩ := v
  have ho : offices = offices' := by
    refine Vector.ext fun i hi => ?_
    exact hoffice ⟨i, hi⟩
  cases ho
  cases hhost
  rfl

/-- The office of another engine is out of reach of a change to one's own. -/
theorem office_setOffice_of_ne {w : World n κ α γ} {i j : Fin n} (h : j ≠ i)
    (office : Office κ α) : (w.setOffice i office).office j = w.office j := by
  have hij : i.val ≠ j.val := fun he => h (Fin.ext he.symm)
  simp [World.office, World.setOffice, Vector.getElem_set_ne, hij]

/-- Clearing the stage leaves akin sessions akin. -/
theorem Akin.clear (h : s.Akin t) :
    (s.setStage s.engine.stage.clear).Akin (t.setStage t.engine.stage.clear) :=
  ⟨h.id, h.config, h.viewport, h.document, h.imports, h.registry, h.controllers, h.root,
    h.assets, h.host, h.others⟩

/-- And so does a phase. -/
theorem Akin.setPhase (h : s.Akin t) (phase : Phase) :
    (s.setPhase phase).Akin (t.setPhase phase) :=
  ⟨h.id, h.config, h.viewport, h.document, h.imports, h.registry, h.controllers, h.root,
    h.assets, h.host, h.others⟩

/-- **The emptied scope is all the difference akin sessions had.** -/
theorem Akin.rebind (h : s.Akin t) (controller : Option String) :
    (s.rebind controller).Alike (t.rebind controller) := by
  refine ⟨h.id, h.viewport, h.imports, h.registry, ?_⟩
  have hscope : (s.rebind controller).scope = (t.rebind controller).scope := by
    simp only [scope_rebind, Scope.setCurrent, Scope.controller?, h.controllers, h.root]
  have hassets : (s.rebind controller).assets = (t.rebind controller).assets := by
    rw [Session.rebind, Session.rebind, assets_setScope, assets_setScope]
    exact h.assets
  refine world_ext h.host fun i => ?_
  -- the office of the engine itself was rebuilt; those of the others were not touched
  by_cases hi : i = s.id
  · subst hi
    have hid : (t.rebind controller).world.office s.id =
        ⟨(t.rebind controller).scope, (t.rebind controller).assets⟩ := by
      rw [h.id]
      rfl
    rw [hid, ← hscope, ← hassets]
    rfl
  · have hs : (s.rebind controller).world.office i = s.world.office i :=
      office_setOffice_of_ne hi _
    have ht : (t.rebind controller).world.office i = t.world.office i :=
      office_setOffice_of_ne (h.id ▸ hi) _
    rw [hs, ht, h.others i hi]

/-! ## Alike sessions raise the same scene -/

theorem Alike.setPhase (h : s.Alike t) (phase : Phase) :
    (s.setPhase phase).Alike (t.setPhase phase) :=
  ⟨h.id, h.viewport, h.imports, h.registry, h.world⟩

theorem Alike.setPending (h : s.Alike t) (requested : Option String) :
    (s.setPending requested).Alike (t.setPending requested) :=
  ⟨h.id, h.viewport, h.imports, h.registry, h.world⟩

theorem Alike.scope (h : s.Alike t) : s.scope = t.scope := by
  rw [Session.scope, Session.scope, h.world, h.id]

theorem Alike.cue (h : s.Alike t) (scene : Scene) : s.cue scene = t.cue scene := by
  have hassets : s.assets = t.assets := by rw [Session.assets, Session.assets, h.world, h.id]
  rw [Session.cue, Session.cue, h.scope, hassets, h.world]

theorem Alike.resume (h : s.Alike t) (cue : Cue κ α γ) : (s.resume cue).Alike (t.resume cue) := by
  refine ⟨h.id, h.viewport, h.imports, h.registry, ?_⟩
  rw [Session.resume, Session.resume, h.world, h.id]

/-- The directives build the same scene and leave the sessions alike. -/
theorem Alike.buildScene (h : s.Alike t) (name : String) (definition : Markup.Node) :
    (s.buildScene name definition).1 = (t.buildScene name definition).1 ∧
      (s.buildScene name definition).2.Alike (t.buildScene name definition).2 := by
  simp only [Session.buildScene, h.registry, h.imports, h.world]
  exact ⟨rfl, h.id, h.viewport, h.imports, rfl, rfl⟩

/-- So does the enter hook. -/
theorem Alike.enter (h : s.Alike t) (cast : κ → Controller κ α γ) (scene : Scene) :
    (s.enter cast scene).1 = (t.enter cast scene).1 ∧
      (s.enter cast scene).2.Alike (t.enter cast scene).2 := by
  unfold Session.enter
  rw [h.scope]
  cases t.scope.current with
  | none => exact ⟨rfl, h⟩
  | some entry =>
    simp only [runHook_eq, h.cue scene, true_and]
    exact (h.resume _).setPending _

/-- Two sessions with empty stages show the same scene once it is attached. -/
theorem Alike.attach (h : s.Alike t) (hs : s.engine.stage.actors = [])
    (ht : t.engine.stage.actors = []) (name : String) (scene : Scene) :
    (s.attach name scene).SameShow (t.attach name scene) where
  scene := by simp only [Session.attach, Stage.attach, h.viewport]
  values := congrArg Scope.values h.scope
  current := congrArg Scope.current h.scope
  free := hs
  free' := ht
  lastRendered := rfl

@[simp] theorem stage_enter (cast : κ → Controller κ α γ) (s : Session n κ α γ) (scene : Scene) :
    (s.enter cast scene).2.engine.stage = s.engine.stage := by
  unfold Session.enter
  split <;> rfl

/-- **Akin sessions with empty stages raise the same scene.** -/
theorem Akin.raise (h : s.Akin t) (cast : κ → Controller κ α γ)
    (hs : s.engine.stage.actors = []) (ht : t.engine.stage.actors = []) (name : String)
    (definition : Markup.Node) :
    (s.raise cast name definition).SameShow (t.raise cast name definition) := by
  obtain ⟨hscene, hbuilt⟩ :=
    (h.rebind (definition.attr? "controller")).buildScene name definition
  obtain ⟨hentered, halike⟩ := (hbuilt.setPhase .built).enter cast
    (t.rebind (definition.attr? "controller") |>.buildScene name definition).1
  simp only [Session.raise, hscene, hentered]
  refine halike.attach ?_ ?_ name _
  · rw [stage_enter]
    exact hs
  · rw [stage_enter]
    exact ht

/-- **Akin sessions whose scene has no controller switch to the same scene.** -/
theorem Akin.switchScene (h : s.Akin t) (cast : κ → Controller κ α γ)
    (hs : s.sceneController? = none) (ht : t.sceneController? = none) (name : String)
    (definition : Markup.Node) :
    (s.switchScene cast name definition).SameShow (t.switchScene cast name definition) := by
  have hleft : (s.leave cast).Akin (t.leave cast) := by
    rw [leave, leave, retire_of_none cast (s := s.setPhase .sceneSelected) hs,
      retire_of_none cast (s := t.setPhase .sceneSelected) ht]
    exact (h.setPhase .sceneSelected).clear
  have hclear : ∀ {r : Session n κ α γ}, r.sceneController? = none →
      (r.leave cast).engine.stage.actors = [] := by
    intro r hr
    rw [leave, retire_of_none cast (s := r.setPhase .sceneSelected) hr]
    rfl
  rw [switchScene_eq, switchScene_eq]
  exact hleft.raise cast (hclear hs) (hclear ht) name definition

/-! ## Renders -/

/-- What a switch from `s` to a scene lets through, where it ends in `s'`. -/
structure SealedSwitch (cast : κ → Controller κ α γ) (s s' : Session n κ α γ) (name : String)
    (definition : Markup.Node) : Prop where
  /-- The new scene is raised on what the old one left. -/
  raised : s' = (s.leave cast).raise cast name definition
  /-- Whatever variables the old scene left, those its exit hook set included,
  directives and enter hook come to the same. -/
  forgets : ∀ values, ((s.leave cast).setScope { (s.leave cast).scope with values }).raise cast
    name definition = s'
  /-- The directives start without a variable. -/
  blank : ((s.leave cast).rebind (definition.attr? "controller")).scope.values = []
  /-- The exit hook is told of the scene and the scope as they stood. -/
  told : ∀ scene controller, s.engine.stage.scene = some scene →
    s.sceneController? = some controller →
    ∃ cue, cue = (cast controller).exit
        { scene, scope := s.scope, assets := s.assets, host := s.world.host } ∧
      s.leave cast = (((s.setPhase .sceneSelected).resume cue).setPending cue.requested).setStage
        s.engine.stage.clear

/-- **Every switch is sealed.** -/
theorem sealedSwitch (cast : κ → Controller κ α γ) (s : Session n κ α γ) (name : String)
    (definition : Markup.Node) :
    SealedSwitch cast s (s.switchScene cast name definition) name definition where
  raised := switchScene_eq cast s name definition
  forgets values := by
    rw [switchScene_eq, raise, raise, rebind_setValues]
  blank := values_rebind _ _
  told scene controller hscene hcontroller :=
    ⟨_, rfl, retire_of_some cast (s := s.setPhase .sceneSelected) hscene hcontroller⟩

/-- **Scene isolation.** Sessions that are akin, and whose scenes have no
controller to run at the end, render every scene alike: the answer is the
same, and so is the show. And whichever session a render starts from, with
whatever hooks, its switch is sealed: of the variables of the old scene the
new one learns nothing, while the exit hook has them all. -/
theorem renderScene_isolated (cast : κ → Controller κ α γ) :
    (∀ (s t : Session n κ α γ) (name : String), s.Akin t →
      s.sceneController? = none → t.sceneController? = none →
      s.engine.config.isDocumentName name = false →
      (s.renderScene cast name).map Prod.fst = (t.renderScene cast name).map Prod.fst ∧
      ∀ s' t', s.renderScene cast name = .ok (true, s') → t.renderScene cast name = .ok (true, t') →
        s'.SameShow t') ∧
    ∀ (s s' : Session n κ α γ) (name : String), s.renderScene cast name = .ok (true, s') →
      ∃ r scene definition, (r = s ∨ ∃ start, s.loadFile name = .ok (start, r)) ∧
        SealedSwitch cast r s' scene definition := by
  constructor
  · intro s t name h hs ht hname
    have hname' : t.engine.config.isDocumentName name = false := h.config ▸ hname
    -- akin sessions have one document, so they find the same scene in it
    have hfind : s.findScene? name = t.findScene? name := by
      rw [findScene?, findScene?, h.document]
    rw [renderScene_of_scene cast hname, renderScene_of_scene cast hname', showScene, showScene,
      hfind]
    cases t.findScene? name with
    | none =>
      refine ⟨rfl, fun s' t' hs' _ => ?_⟩
      cases hs'
    | some found =>
      refine ⟨by simp only [Except.map], fun s' t' hs' ht' => ?_⟩
      cases hs'
      cases ht'
      exact h.switchScene cast hs ht found.1 found.2
  · intro s s' name h
    obtain ⟨r, scene, definition, hr, rfl⟩ := exists_switchScene_of_renderScene h
    exact ⟨r, scene, definition, hr, sealedSwitch cast r scene definition⟩

/-- A document with one scene in use, and whatever else is on the stage and in
the scope. -/
def hall (values : Named Variable) (scene : Option Scene) : Session 1 Unit SkinAssets Unit where
  id := 0
  engine :=
    { config := {}
      documents := MemorySource.load []
      stage := { viewport := ⟨1280, 720⟩, scene }
      document := some
        { name := "stage", children := [{ name := "scene", attributes := [⟨"name", "hall"⟩] }] } }
  registry := { root := "ROOT" }
  world := { offices := #v[{ scope := { values }, assets := {} }], host := () }

/-- Two ways into the hall, with other variables and another scene before. -/
theorem renderScene_isolated_hall :
    let s := hall [("x", .truth true)] none
    let t := hall [("y", .text "z")] (some (.named "porch" (some "nobody")))
    let s' := s.switchScene (fun _ => {}) "hall" ⟨"scene", [⟨"name", "hall"⟩], none, [], ⟨0, 0⟩⟩
    let t' := t.switchScene (fun _ => {}) "hall" ⟨"scene", [⟨"name", "hall"⟩], none, [], ⟨0, 0⟩⟩
    s.Akin t ∧ s.sceneController? = none ∧ t.sceneController? = none ∧
      s.engine.config.isDocumentName "hall" = false ∧
      s.renderScene (fun _ => {}) "hall" = .ok (true, s') ∧
      t.renderScene (fun _ => {}) "hall" = .ok (true, t') ∧ s'.SameShow t' ∧
      ∃ r scene definition, (r = s ∨ ∃ start, s.loadFile "hall" = .ok (start, r)) ∧
        SealedSwitch (fun _ => {}) r s' scene definition := by
  intro s t s' t'
  have hakin : s.Akin t :=
    ⟨rfl, rfl, rfl, rfl, rfl, rfl, rfl, rfl, rfl, rfl,
      fun i hi => (hi (Subsingleton.elim i _)).elim⟩
  have hname : s.engine.config.isDocumentName "hall" = false := by decide
  have hs : s.renderScene (fun _ => {}) "hall" = .ok (true, s') := renderScene_of_scene _ hname
  have ht : t.renderScene (fun _ => {}) "hall" = .ok (true, t') := renderScene_of_scene _ hname
  exact ⟨hakin, rfl, rfl, hname, hs, ht,
    ((renderScene_isolated _).1 s t "hall" hakin rfl rfl hname).2 s' t' hs ht,
    (renderScene_isolated _).2 s s' "hall" hs⟩

end Session

end SceneScript
