import SceneScript.Proofs.Engine.Parts
/-!
# Engine — the two halves of a switch

A switch has a half that belongs to the scene that goes and a half that
belongs to the scene that comes. `leave` is the first: the exit hook runs
and the stage is cleared. `raise` is the second: the scope is emptied, the
scene is built, enters, and goes onto the stage. A render is a search among
the scenes of the document in use, with a switch to what it finds
(`showScene`), and the name of a document is loaded before.
-/

namespace SceneScript

namespace Session

variable {n : Nat} {κ α γ : Type}

/-! ## The scene that goes -/

/-- The first half of a switch: the scene on the stage leaves. -/
def leave (cast : κ → Controller κ α γ) (s : Session n κ α γ) : Session n κ α γ :=
  (s.setPhase .sceneSelected).retire cast

/-- Where the scene has no controller, nothing is told and the stage is
cleared. -/
theorem retire_of_none (cast : κ → Controller κ α γ) {s : Session n κ α γ}
    (h : s.sceneController? = none) : s.retire cast = s.setStage s.engine.stage.clear := by
  unfold retire
  rw [h]
  cases s.engine.stage.scene <;> rfl

/-- Where it has one, the exit hook is told of the session as it stands. -/
theorem retire_of_some (cast : κ → Controller κ α γ) {s : Session n κ α γ} {scene : Scene}
    {controller : κ} (hscene : s.engine.stage.scene = some scene)
    (h : s.sceneController? = some controller) :
    s.retire cast =
      ((s.resume ((cast controller).exit (s.cue scene))).setPending
        ((cast controller).exit (s.cue scene)).requested).setStage s.engine.stage.clear := by
  unfold retire
  rw [h, hscene]
  rfl

/-- **The two ways of leaving**: unnoticed, or with the exit hook told. -/
theorem leave_cases (cast : κ → Controller κ α γ) (s : Session n κ α γ) :
    (s.sceneController? = none ∧
      s.leave cast = (s.setPhase .sceneSelected).setStage s.engine.stage.clear) ∨
    ∃ scene controller, s.engine.stage.scene = some scene ∧
      s.sceneController? = some controller ∧
      s.leave cast = (((s.setPhase .sceneSelected).resume
        ((cast controller).exit (s.cue scene))).setPending
          ((cast controller).exit (s.cue scene)).requested).setStage s.engine.stage.clear := by
  cases hcontroller : s.sceneController? with
  | none =>
    exact .inl ⟨rfl, retire_of_none cast (s := s.setPhase .sceneSelected) hcontroller⟩
  | some controller =>
    obtain ⟨scene, hscene, -⟩ := Option.bind_eq_some_iff.1 hcontroller
    exact .inr ⟨scene, controller, hscene, rfl,
      retire_of_some cast (s := s.setPhase .sceneSelected) hscene hcontroller⟩

/-! ## The scene that comes -/

/-- The second half of a switch: a scene is built, enters, and goes onto the
stage. -/
def raise (cast : κ → Controller κ α γ) (s : Session n κ α γ) (name : String)
    (definition : Markup.Node) : Session n κ α γ :=
  let s := s.rebind (definition.attr? "controller")
  let (scene, s) := s.buildScene name definition
  let (scene, s) := (s.setPhase .built).enter cast scene
  s.attach name scene

/-- **A switch is a departure and an arrival.** -/
theorem switchScene_eq (cast : κ → Controller κ α γ) (s : Session n κ α γ) (name : String)
    (definition : Markup.Node) :
    s.switchScene cast name definition = (s.leave cast).raise cast name definition := rfl

/-- A scene with its actors, and the session with its controller in charge. -/
def assemble (s : Session n κ α γ) (name : String) (definition : Markup.Node) :
    Scene × Session n κ α γ :=
  (s.rebind (definition.attr? "controller")).buildScene name definition

/-- The scene that goes onto the stage, and the session once it has entered. -/
def entered (cast : κ → Controller κ α γ) (s : Session n κ α γ) (name : String)
    (definition : Markup.Node) : Scene × Session n κ α γ :=
  ((s.assemble name definition).2.setPhase .built).enter cast (s.assemble name definition).1

/-- The second half of a switch, step by step. -/
theorem raise_eq (cast : κ → Controller κ α γ) (s : Session n κ α γ) (name : String)
    (definition : Markup.Node) :
    s.raise cast name definition =
      (s.entered cast name definition).2.attach name (s.entered cast name definition).1 := rfl

/-- The scope an arrival starts from: the controllers of before, and nothing
of the scene before. -/
theorem scope_rebind (s : Session n κ α γ) (controller : Option String) :
    (s.rebind controller).scope =
      ({ s.scope with current := none, values := [] } : Scope κ).setCurrent controller := by
  simp [rebind, Scope.setCurrent, Scope.clearVariables]

/-- The arrival starts without variables. -/
@[simp] theorem values_rebind (s : Session n κ α γ) (controller : Option String) :
    (s.rebind controller).scope.values = [] := by
  rw [scope_rebind]
  rfl

/-- **An arrival forgets the variables.** -/
theorem rebind_setValues (s : Session n κ α γ) (values : Named Variable)
    (controller : Option String) :
    (s.setScope { s.scope with values }).rebind controller = s.rebind controller := by
  simp [rebind, Scope.setCurrent, Scope.clearVariables, Scope.controller?]

/-! ## What a switch leaves of an engine -/

/-- A departure clears the stage, and may have a scene asked for. -/
theorem exists_engine_leave (cast : κ → Controller κ α γ) (s : Session n κ α γ) :
    ∃ pending, (s.leave cast).engine =
      { s.engine with stage := s.engine.stage.clear, pending, phase := .sceneSelected } := by
  rcases leave_cases cast s with ⟨-, hleft⟩ | ⟨scene, controller, -, -, hleft⟩
  · rw [hleft]
    exact ⟨_, rfl⟩
  · rw [hleft]
    exact ⟨_, rfl⟩

/-- The scenes of the document in use are those of before. -/
theorem findScene?_leave (cast : κ → Controller κ α γ) (s : Session n κ α γ) (wanted : String) :
    (s.leave cast).findScene? wanted = s.findScene? wanted := by
  obtain ⟨pending, hleft⟩ := exists_engine_leave cast s
  rw [findScene?, findScene?, hleft]

/-- An entry may have a scene asked for, and does nothing else to the engine. -/
theorem exists_engine_enter (cast : κ → Controller κ α γ) (s : Session n κ α γ) (scene : Scene) :
    ∃ pending, (s.enter cast scene).2.engine = { s.engine with pending } := by
  unfold enter
  split
  · exact ⟨_, rfl⟩
  · exact ⟨_, rfl⟩

/-- An arrival puts the scene that has entered onto the stage, and may have
another asked for. -/
theorem exists_engine_raise (cast : κ → Controller κ α γ) (s : Session n κ α γ) (name : String)
    (definition : Markup.Node) :
    ∃ pending, (s.raise cast name definition).engine =
      { s.engine with
        stage := s.engine.stage.attach (s.entered cast name definition).1
        lastRendered := some name, pending, phase := .active } := by
  obtain ⟨pending, hentered⟩ := exists_engine_enter cast
    ((s.assemble name definition).2.setPhase .built) (s.assemble name definition).1
  rw [← entered] at hentered
  refine ⟨pending, ?_⟩
  rw [raise_eq, attach, hentered]
  rfl

/-- **What a switch leaves of an engine.** -/
theorem exists_engine_switchScene (cast : κ → Controller κ α γ) (s : Session n κ α γ)
    (name : String) (definition : Markup.Node) :
    ∃ pending, (s.switchScene cast name definition).engine =
      { s.engine with
        stage := s.engine.stage.clear.attach ((s.leave cast).entered cast name definition).1
        lastRendered := some name, pending, phase := .active } := by
  obtain ⟨_, hleft⟩ := exists_engine_leave cast s
  obtain ⟨pending, hraised⟩ := exists_engine_raise cast (s.leave cast) name definition
  refine ⟨pending, ?_⟩
  rw [switchScene_eq, hraised, hleft]

/-! ## What a switch leaves of the registry -/

/-- A departure leaves the registry alone. -/
theorem registry_leave (cast : κ → Controller κ α γ) (s : Session n κ α γ) :
    (s.leave cast).registry = s.registry ∧ (s.leave cast).id = s.id := by
  rcases leave_cases cast s with ⟨-, hleft⟩ | ⟨scene, controller, -, -, hleft⟩
  · rw [hleft]
    exact ⟨rfl, rfl⟩
  · rw [hleft]
    exact ⟨rfl, rfl⟩

/-- So does an arrival. -/
theorem registry_raise (cast : κ → Controller κ α γ) (s : Session n κ α γ) (name : String)
    (definition : Markup.Node) : (s.raise cast name definition).registry = s.registry ∧
      (s.raise cast name definition).id = s.id := by
  rw [raise_eq, attach, entered]
  unfold enter
  split <;> exact ⟨rfl, rfl⟩

theorem registry_switchScene (cast : κ → Controller κ α γ) (s : Session n κ α γ) (name : String)
    (definition : Markup.Node) :
    (s.switchScene cast name definition).registry = s.registry := by
  rw [switchScene_eq, (registry_raise cast _ name definition).1, (registry_leave cast s).1]

/-! ## Renders -/

/-- Switches to the scene of a name, if the document in use has one. -/
def showScene (cast : κ → Controller κ α γ) (s : Session n κ α γ) (name : String) :
    Bool × Session n κ α γ :=
  match s.findScene? name with
  | none => (false, s)
  | some (name, definition) => (true, s.switchScene cast name definition)

/-- The name of a scene is searched for at once. -/
theorem renderScene_of_scene (cast : κ → Controller κ α γ) {s : Session n κ α γ} {name : String}
    (h : s.engine.config.isDocumentName name = false) :
    s.renderScene cast name = .ok (s.showScene cast name) := by
  unfold renderScene showScene
  rw [if_neg (by simp [h])]
  simp only [pure_bind]
  cases s.findScene? name <;> rfl

/-- The name of a document is loaded, and its start scene searched for. -/
theorem renderScene_of_document (cast : κ → Controller κ α γ) {s : Session n κ α γ}
    {name : String} (h : s.engine.config.isDocumentName name = true) :
    s.renderScene cast name =
      (s.loadFile name).map fun loaded => loaded.2.showScene cast loaded.1 := by
  unfold renderScene showScene
  rw [if_pos h]
  cases s.loadFile name with
  | error e => rfl
  | ok loaded =>
    simp only [Except.map, bind, Except.bind]
    cases loaded.2.findScene? loaded.1 <;> rfl

theorem eq_switchScene_of_showScene {cast : κ → Controller κ α γ} {s s' : Session n κ α γ}
    {name : String} (h : s.showScene cast name = (true, s')) :
    ∃ found, s.findScene? name = some found ∧ s' = s.switchScene cast found.1 found.2 := by
  unfold showScene at h
  cases hf : s.findScene? name with
  | none =>
    rw [hf] at h
    cases h
  | some found =>
    rw [hf] at h
    cases h
    exact ⟨found, rfl, rfl⟩

/-- **A render that succeeds is a switch**, of the session itself or of what
loading a document left of it. -/
theorem exists_switchScene_of_renderScene {cast : κ → Controller κ α γ} {s s' : Session n κ α γ}
    {name : String} (h : s.renderScene cast name = .ok (true, s')) :
    ∃ r scene definition, (r = s ∨ ∃ start, s.loadFile name = .ok (start, r)) ∧
      s' = r.switchScene cast scene definition := by
  by_cases hd : s.engine.config.isDocumentName name = true
  · rw [renderScene_of_document cast hd] at h
    cases hl : s.loadFile name with
    | error e =>
      rw [hl] at h
      cases h
    | ok loaded =>
      rw [hl] at h
      obtain ⟨found, -, hs⟩ := eq_switchScene_of_showScene (Except.ok.inj h)
      exact ⟨loaded.2, found.1, found.2, .inr ⟨loaded.1, rfl⟩, hs⟩
  · rw [renderScene_of_scene cast (Bool.eq_false_iff.2 hd)] at h
    obtain ⟨found, -, hs⟩ := eq_switchScene_of_showScene (Except.ok.inj h)
    exact ⟨s, found.1, found.2, .inl rfl, hs⟩

end Session

end SceneScript
