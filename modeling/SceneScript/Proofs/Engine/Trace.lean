import SceneScript.Proofs.Engine.Loading
import SceneScript.Proofs.Engine.Run
/-!
# Engine — what happens in a run

A run can be told as the things that happen in it: scenes are asked for,
documents are opened, directives build, controllers are told, scenes go onto
the stage. `trace` tells it so, beside the functions that do it.

Whatever is asked of it, an engine does in a few elementary moves (`Move`).
Every command is a row of them (`moves_perform`), and so is every run
(`moves_run`): what each move keeps, every run keeps. That the trace leaves
out no hook, and makes none up, is `record_run`: where hooks write their calls
down, the record of a run reads as its trace.
-/

namespace SceneScript

variable {n : Nat} {κ α γ : Type}

/-! ## Happenings -/

/-- An occasion on which a controller is told something. -/
inductive Occasion where
  | enter
  | update (dt : Float32)
  | exit
  | action (name : String)
deriving DecidableEq

/-- The hook for an occasion. -/
def Controller.hook (controller : Controller κ α γ) : Occasion → Hook κ α γ
  | .enter => controller.enter
  | .update dt => controller.update dt
  | .exit => controller.exit
  | .action name => controller.action name

/-- What a scene is known by: its name, and the controller it declares. -/
structure Show where
  name : String
  controller : Option String
deriving DecidableEq

/-- What a scene is known by. -/
def Scene.show (scene : Scene) : Show :=
  ⟨scene.name, scene.controller⟩

/-- A thing that happens while an engine is at work. -/
inductive Happening (n : Nat) (κ α γ : Type) where
  /-- A scene is to be rendered, or the start scene of the document of that
  name. -/
  | asked (name : String)
  /-- The libraries are loaded, and a document is taken into use. -/
  | opened (document : Markup.Node) (before after : Session n κ α γ)
  /-- Directives build the scene of a name from its definition. -/
  | built (name : String) (definition : Markup.Node) (scene : Scene)
      (before after : Session n κ α γ)
  /-- A controller is told something. -/
  | told (controller : κ) (occasion : Occasion) (cue : Cue κ α γ)
  /-- A scene goes onto the stage. -/
  | shown (scene : Scene)
  /-- The host registers a controller. -/
  | registered (before after : Session n κ α γ)
  /-- The stage is emptied and the assets are released. -/
  | disposed (stage : Stage)

/-- What happens, in order. -/
abbrev Trace (n : Nat) (κ α γ : Type) := List (Happening n κ α γ)

/-- A call of a hook: whose, on what occasion, about what scene. -/
structure Told (κ : Type) where
  controller : κ
  occasion : Occasion
  about : Show
deriving DecidableEq

/-- Hooks that also write their calls down, for a host that keeps a record. -/
def Controller.noted (controller : κ) (hooks : Controller κ α (List (Told κ))) :
    Controller κ α (List (Told κ)) :=
  let note (occasion : Occasion) : Hook κ α (List (Told κ)) := fun cue =>
    let heard := hooks.hook occasion cue
    { heard with host := heard.host ++ [⟨controller, occasion, cue.scene.show⟩] }
  { enter := note .enter
    update := fun dt => note (.update dt)
    exit := note .exit
    action := fun name => note (.action name) }

namespace Happening

/-- The call of a hook, where it is one. -/
def told? : Happening n κ α γ → Option (Told κ)
  | told controller occasion cue => some ⟨controller, occasion, cue.scene.show⟩
  | _ => none

/-- The scene that is shown, where one is. -/
def shown? : Happening n κ α γ → Option Show
  | shown scene => some scene.show
  | _ => none

/-- What the engine does at work. Registering and disposing are done to it. -/
def IsWork : Happening n κ α γ → Prop
  | registered _ _ => False
  | disposed _ => False
  | _ => True

/-- Directives build a scene. -/
def Builds : Happening n κ α γ → Prop
  | built .. => True
  | _ => False

/-- In what happens here a record of the host's grows by the calls of hooks: a
hook adds its own call, and nothing else adds any. -/
def Records (cast : κ → Controller κ α γ) (record : γ → List (Told κ)) :
    Happening n κ α γ → Prop
  | told controller occasion cue =>
    record ((cast controller).hook occasion cue).host =
      record cue.host ++ [⟨controller, occasion, cue.scene.show⟩]
  | opened _ before after => record after.world.host = record before.world.host
  | built _ _ _ before after => record after.world.host = record before.world.host
  | _ => True

instance [DecidableEq κ] (cast : κ → Controller κ α γ) (record : γ → List (Told κ)) :
    (e : Happening n κ α γ) → Decidable (e.Records cast record)
  | told controller occasion cue => inferInstanceAs (Decidable
    (record ((cast controller).hook occasion cue).host =
      record cue.host ++ [⟨controller, occasion, cue.scene.show⟩]))
  | opened _ before after => inferInstanceAs
    (Decidable (record after.world.host = record before.world.host))
  | built _ _ _ before after => inferInstanceAs
    (Decidable (record after.world.host = record before.world.host))
  | asked _ | shown _ | registered _ _ | disposed _ => inferInstanceAs (Decidable True)

end Happening

namespace Trace

/-- The calls of hooks. -/
def calls (trace : Trace n κ α γ) : List (Told κ) :=
  trace.filterMap Happening.told?

/-- The scenes that were rendered. -/
def shows (trace : Trace n κ α γ) : List Show :=
  trace.filterMap Happening.shown?

@[simp] theorem calls_append (t u : Trace n κ α γ) :
    calls (t ++ u) = calls t ++ calls u := List.filterMap_append

@[simp] theorem shows_append (t u : Trace n κ α γ) :
    shows (t ++ u) = shows t ++ shows u := List.filterMap_append

end Trace

namespace Session

/-! ## Telling a controller -/

/-- What a controller makes of what it is told about a scene. -/
def heard (cast : κ → Controller κ α γ) (s : Session n κ α γ) (controller : κ)
    (occasion : Occasion) (scene : Scene) : Cue κ α γ :=
  (cast controller).hook occasion (s.cue scene)

/-- The session once a controller was told about the scene on the stage. -/
def tell (cast : κ → Controller κ α γ) (s : Session n κ α γ) (controller : κ)
    (occasion : Occasion) (scene : Scene) : Session n κ α γ :=
  (s.resume (s.heard cast controller occasion scene)).setStage
    { s.engine.stage with scene := some (s.heard cast controller occasion scene).scene }

/-- Tells a controller, if there is one, about the scene on the stage, if there
is one, and renders what it asks for. -/
def consult (cast : κ → Controller κ α γ) (s : Session n κ α γ) (controller : Option κ)
    (occasion : Occasion) : Session n κ α γ :=
  match s.engine.stage.scene, controller with
  | some scene, some controller =>
    (s.tell cast controller occasion scene).follow cast
      (s.heard cast controller occasion scene).requested
  | _, _ => s

/-- A frame consults the controller of the scene. -/
theorem updateScene_eq (cast : κ → Controller κ α γ) (s : Session n κ α γ) (dt : Float32) :
    s.updateScene cast dt = s.consult cast s.sceneController? (.update dt) := rfl

/-- An action consults the controller that actions go to. -/
theorem dispatch_eq (cast : κ → Controller κ α γ) (s : Session n κ α γ) (action : String) :
    (s.dispatch cast action).2 = s.consult cast s.actionController? (.action action) := by
  unfold dispatch consult
  cases s.engine.stage.scene with
  | none => rfl
  | some scene =>
    cases s.actionController? with
    | none => rfl
    | some controller => rfl

/-! ## Traces -/

/-- The call of the controller of the scene on the stage. -/
def leaveTrace (s : Session n κ α γ) : Trace n κ α γ :=
  match s.engine.stage.scene, s.sceneController? with
  | some scene, some controller => [.told controller .exit (s.cue scene)]
  | _, _ => []

theorem leaveTrace_of_none {s : Session n κ α γ} (h : s.sceneController? = none) :
    s.leaveTrace = [] := by
  rw [leaveTrace, h]
  cases s.engine.stage.scene <;> rfl

theorem leaveTrace_of_some {s : Session n κ α γ} {scene : Scene} {controller : κ}
    (hscene : s.engine.stage.scene = some scene) (h : s.sceneController? = some controller) :
    s.leaveTrace = [.told controller .exit (s.cue scene)] := by
  rw [leaveTrace, h, hscene]

/-- The call of the controller in charge. -/
def enterTrace (s : Session n κ α γ) (scene : Scene) : Trace n κ α γ :=
  match s.scope.current with
  | some (_, controller) => [.told controller .enter (s.cue scene)]
  | none => []

/-- The building of a scene, with its controller in charge. -/
def building (s : Session n κ α γ) (name : String) (definition : Markup.Node) :
    Happening n κ α γ :=
  .built name definition (s.assemble name definition).1
    (s.rebind (definition.attr? "controller")) (s.assemble name definition).2

/-- What happens when a scene is built, enters, and goes onto the stage. -/
def raiseTrace (cast : κ → Controller κ α γ) (s : Session n κ α γ) (name : String)
    (definition : Markup.Node) : Trace n κ α γ :=
  s.building name definition ::
    ((s.assemble name definition).2.enterTrace (s.assemble name definition).1 ++
      [.shown (s.entered cast name definition).1])

/-- What happens in a switch to a scene of the document in use. -/
def switchTrace (cast : κ → Controller κ α γ) (s : Session n κ α γ) (name : String)
    (definition : Markup.Node) : Trace n κ α γ :=
  s.leaveTrace ++ (s.leave cast).raiseTrace cast name definition

theorem not_builds_leaveTrace (s : Session n κ α γ) : ∀ e ∈ s.leaveTrace, ¬ e.Builds := by
  unfold leaveTrace
  split <;> simp [Happening.Builds]

theorem not_builds_enterTrace (s : Session n κ α γ) (scene : Scene) :
    ∀ e ∈ s.enterTrace scene, ¬ e.Builds := by
  unfold enterTrace
  split <;> simp [Happening.Builds]

/-- **A switch builds once**, when the old scene has left. -/
theorem eq_building_of_mem_switchTrace {cast : κ → Controller κ α γ} {s : Session n κ α γ}
    {name : String} {definition : Markup.Node} {e : Happening n κ α γ}
    (h : e ∈ s.switchTrace cast name definition) (hbuilds : e.Builds) :
    e = (s.leave cast).building name definition := by
  rw [switchTrace, raiseTrace, List.mem_append, List.mem_cons, List.mem_append,
    List.mem_singleton] at h
  rcases h with hleave | rfl | henter | rfl
  · exact (not_builds_leaveTrace s e hleave hbuilds).elim
  · rfl
  · exact (not_builds_enterTrace _ _ e henter hbuilds).elim
  · exact hbuilds.elim

/-- What happens when a scene of the document in use is looked for. -/
def showTrace (cast : κ → Controller κ α γ) (s : Session n κ α γ) (name : String) :
    Trace n κ α γ :=
  match s.findScene? name with
  | none => []
  | some (name, definition) => s.switchTrace cast name definition

/-- What happens when a scene is to be rendered. -/
def renderTrace (cast : κ → Controller κ α γ) (s : Session n κ α γ) (name : String) :
    Trace n κ α γ :=
  .asked name :: if s.engine.config.isDocumentName name then
      match s.readDocument name with
      | .error _ => []
      | .ok (document, start) =>
        .opened document s s.loadLibraries :: (s.openDocument document).showTrace cast start
    else s.showTrace cast name

/-- What happens when a scene is rendered that may have been asked for. -/
def followTrace (cast : κ → Controller κ α γ) (s : Session n κ α γ) (requested : Option String) :
    Trace n κ α γ :=
  match requested with
  | some name => s.renderTrace cast name
  | none => []

/-- What happens when a controller is consulted. -/
def consultTrace (cast : κ → Controller κ α γ) (s : Session n κ α γ) (controller : Option κ)
    (occasion : Occasion) : Trace n κ α γ :=
  match s.engine.stage.scene, controller with
  | some scene, some controller =>
    .told controller occasion (s.cue scene) ::
      (s.tell cast controller occasion scene).followTrace cast
        (s.heard cast controller occasion scene).requested
  | _, _ => []

/-- The session at the beginning of a frame: what was waiting waits no more. -/
def awake (s : Session n κ α γ) : Session n κ α γ :=
  { s with engine := { s.engine with pending := none } }

/-- What happens in a frame. -/
def stepTrace (cast : κ → Controller κ α γ) (s : Session n κ α γ) (dt : Float32) :
    Trace n κ α γ :=
  let shown := s.followPending cast
  let acted := shown.setStage (shown.engine.stage.act dt)
  s.awake.followTrace cast s.engine.pending ++
    acted.consultTrace cast acted.sceneController? (.update dt)

/-- What happens in a frame after the given nanoseconds. -/
def updateTrace (cast : κ → Controller κ α γ) (s : Session n κ α γ) (elapsed : Nat) :
    Trace n κ α γ :=
  let (dt, clock) := s.engine.clock.tick elapsed
  ({ s with engine := { s.engine with clock } } : Session n κ α γ).stepTrace cast dt

/-- The session with the mark of the check box at a path turned over, where the
event is a click. -/
def clicked (s : Session n κ α γ) (scene : Scene) (path : List Nat) (event : String) :
    Session n κ α γ :=
  if Text.alike event "click" then
    s.setStage { s.engine.stage with scene := some (scene.editAt Actor.toggled path) }
  else s

/-- What happens when an event is delivered to the actor at a path. -/
def firePathTrace (cast : κ → Controller κ α γ) (s : Session n κ α γ) (path : List Nat)
    (event : String) : Trace n κ α γ :=
  match s.engine.stage.scene.bind fun scene => (scene.atPath? path).map (scene, ·) with
  | none => []
  | some (scene, actor) =>
    let s := s.clicked scene path event
    match actor.base.binding? event with
    | some action => s.consultTrace cast s.actionController? (.action action)
    | none => []

/-- What happens when an event is delivered to the first actor of a name. -/
def fireTrace (cast : κ → Controller κ α γ) (s : Session n κ α γ) (name event : String) :
    Trace n κ α γ :=
  match s.engine.stage.scene.bind (·.pathOf? name) with
  | some path => s.firePathTrace cast path event
  | none => []

/-- What happens when an event is delivered at a point. -/
def fireAtTrace (cast : κ → Controller κ α γ) (s : Session n κ α γ) (point : Vec2)
    (event : String) : Trace n κ α γ :=
  match s.engine.stage.scene.bind fun scene => (scene.hit? point).map (scene, ·) with
  | some (scene, path) =>
    s.firePathTrace cast ((bindingPath? scene event path path.length).getD path) event
  | none => []

variable [AssetService α]

/-- What happens when the stage is loaded. -/
def loadStageTrace (cast : κ → Controller κ α γ) (s : Session n κ α γ) : Trace n κ α γ :=
  match s.readDocument s.engine.config.indexDocument with
  | .error _ => []
  | .ok (document, start) =>
    match AssetService.load (s.skinned document) with
    | .error _ => []
    | .ok assets =>
      .opened document (s.setAssets assets) (s.setAssets assets).loadLibraries ::
        (s.installed document assets).renderTrace cast start

/-- What happens on a command. -/
def performTrace (cast : κ → Controller κ α γ) (s : Session n κ α γ) :
    Command κ → Trace n κ α γ
  | .loadStage => s.loadStageTrace cast
  | .loadFile path =>
    match s.readDocument path with
    | .error _ => []
    | .ok (document, _) => [.opened document s s.loadLibraries]
  | .render name => s.renderTrace cast name
  | .update elapsed => s.updateTrace cast elapsed
  | .updateBy seconds => s.updateTrace cast ((nanosOf? seconds).getD 0)
  | .fire actor event => s.fireTrace cast actor event
  | .fireAt point event => s.fireAtTrace cast point event
  | .dispose => [.disposed s.engine.stage]
  | .register name controller =>
    [.registered s (s.setScope (s.scope.addController name controller))]

/-- What happens in a run. -/
def trace (cast : κ → Controller κ α γ) : Session n κ α γ → List (Command κ) → Trace n κ α γ
  | _, [] => []
  | s, command :: rest => s.performTrace cast command ++ (s.perform cast command).trace cast rest

/-! ## What is done at work -/

section Work

variable (cast : κ → Controller κ α γ) (s : Session n κ α γ)

omit [AssetService α] in
theorem isWork_leaveTrace : ∀ e ∈ s.leaveTrace, e.IsWork := by
  unfold leaveTrace
  split <;> simp [Happening.IsWork]

omit [AssetService α] in
theorem isWork_enterTrace (scene : Scene) : ∀ e ∈ s.enterTrace scene, e.IsWork := by
  unfold enterTrace
  split <;> simp [Happening.IsWork]

omit [AssetService α] in
theorem isWork_switchTrace (name : String) (definition : Markup.Node) :
    ∀ e ∈ s.switchTrace cast name definition, e.IsWork := by
  simp only [switchTrace, raiseTrace, List.forall_mem_append, List.forall_mem_cons]
  exact ⟨isWork_leaveTrace s, trivial, isWork_enterTrace _ _, trivial,
    List.forall_mem_nil _⟩

omit [AssetService α] in
theorem isWork_renderTrace (name : String) : ∀ e ∈ s.renderTrace cast name, e.IsWork := by
  have hshow (r : Session n κ α γ) (name : String) : ∀ e ∈ r.showTrace cast name, e.IsWork := by
    unfold showTrace
    split
    · exact List.forall_mem_nil _
    · exact isWork_switchTrace cast r _ _
  unfold renderTrace
  rw [List.forall_mem_cons]
  refine ⟨trivial, ?_⟩
  split
  · split
    · exact List.forall_mem_nil _
    · exact List.forall_mem_cons.2 ⟨trivial, hshow _ _⟩
  · exact hshow s name

omit [AssetService α] in
theorem isWork_followTrace (requested : Option String) :
    ∀ e ∈ s.followTrace cast requested, e.IsWork := by
  cases requested with
  | none => exact List.forall_mem_nil _
  | some name => exact isWork_renderTrace cast s name

omit [AssetService α] in
theorem isWork_consultTrace (controller : Option κ) (occasion : Occasion) :
    ∀ e ∈ s.consultTrace cast controller occasion, e.IsWork := by
  unfold consultTrace
  split
  · exact List.forall_mem_cons.2 ⟨trivial, isWork_followTrace cast _ _⟩
  · exact List.forall_mem_nil _

omit [AssetService α] in
theorem isWork_updateTrace (elapsed : Nat) : ∀ e ∈ s.updateTrace cast elapsed, e.IsWork :=
  List.forall_mem_append.2 ⟨isWork_followTrace cast _ _, isWork_consultTrace cast _ _ _⟩

omit [AssetService α] in
theorem isWork_firePathTrace (path : List Nat) (event : String) :
    ∀ e ∈ s.firePathTrace cast path event, e.IsWork := by
  unfold firePathTrace
  split
  · exact List.forall_mem_nil _
  · simp only
    split
    · exact isWork_consultTrace cast _ _ _
    · exact List.forall_mem_nil _

theorem isWork_loadStageTrace : ∀ e ∈ s.loadStageTrace cast, e.IsWork := by
  unfold loadStageTrace
  split
  · exact List.forall_mem_nil _
  · split
    · exact List.forall_mem_nil _
    · exact List.forall_mem_cons.2 ⟨trivial, isWork_renderTrace cast _ _⟩

/-- **An engine is registered at and disposed of by command only.** -/
theorem isWork_trace {commands : List (Command κ)} (h : ∀ command ∈ commands, command.IsWork) :
    ∀ e ∈ s.trace cast commands, e.IsWork := by
  induction commands generalizing s with
  | nil => exact List.forall_mem_nil _
  | cons command rest ih =>
    obtain ⟨hcommand, hrest⟩ := List.forall_mem_cons.1 h
    refine List.forall_mem_append.2 ⟨?_, ih _ hrest⟩
    cases command with
    | loadStage => exact isWork_loadStageTrace cast s
    | loadFile path =>
      simp only [performTrace]
      split
      · exact List.forall_mem_nil _
      · exact List.forall_mem_singleton.2 trivial
    | render name => exact isWork_renderTrace cast s name
    | update elapsed => exact isWork_updateTrace cast s elapsed
    | updateBy seconds => exact isWork_updateTrace cast s _
    | fire actor event =>
      simp only [performTrace, fireTrace]
      split
      · exact isWork_firePathTrace cast s _ event
      · exact List.forall_mem_nil _
    | fireAt point event =>
      simp only [performTrace, fireAtTrace]
      split
      · exact isWork_firePathTrace cast s _ event
      · exact List.forall_mem_nil _
    | dispose => exact hcommand.elim
    | register name controller => exact hcommand.elim

end Work

/-! ## Moves -/

/-- Who is told on an occasion between the entry of a scene and its exit: of a
frame the controller of the scene, of an action the one that actions go to. -/
def Answers (s : Session n κ α γ) (controller : κ) : Occasion → Prop
  | .update _ => s.sceneController? = some controller
  | .action _ => s.actionController? = some controller
  | _ => False

/-- **The elementary moves** of an engine, and what happens in each. -/
inductive Move (cast : κ → Controller κ α γ) :
    Session n κ α γ → Trace n κ α γ → Session n κ α γ → Prop where
  | ask (s : Session n κ α γ) (name : String) : Move cast s [.asked name] s
  | awake (s : Session n κ α γ) : Move cast s [] s.awake
  | tick (s : Session n κ α γ) (clock : FrameClock) :
      Move cast s [] { s with engine := { s.engine with clock } }
  | act (s : Session n κ α γ) (dt : Float32) :
      Move cast s [] (s.setStage (s.engine.stage.act dt))
  | click {s : Session n κ α γ} {scene : Scene} (path : List Nat) (event : String) :
      s.engine.stage.scene = some scene → Move cast s [] (s.clicked scene path event)
  | setAssets (s : Session n κ α γ) (assets : α) : Move cast s [] (s.setAssets assets)
  | openDocument (s : Session n κ α γ) (document : Markup.Node) :
      Move cast s [.opened document s s.loadLibraries] (s.openDocument document)
  | tell {s : Session n κ α γ} {scene : Scene} {controller : κ} {occasion : Occasion} :
      s.engine.stage.scene = some scene → s.Answers controller occasion →
      Move cast s [.told controller occasion (s.cue scene)]
        (s.tell cast controller occasion scene)
  | switchScene {s : Session n κ α γ} {wanted name : String} {definition : Markup.Node} :
      s.findScene? wanted = some (name, definition) →
      Move cast s (s.switchTrace cast name definition) (s.switchScene cast name definition)
  | register (s : Session n κ α γ) (name : String) (controller : κ) :
      Move cast s [.registered s (s.setScope (s.scope.addController name controller))]
        (s.setScope (s.scope.addController name controller))
  | dispose (s : Session n κ α γ) : Move cast s [.disposed s.engine.stage] s.dispose

/-- Moves in a row. -/
inductive Moves (cast : κ → Controller κ α γ) :
    Session n κ α γ → Trace n κ α γ → Session n κ α γ → Prop where
  | refl (s : Session n κ α γ) : Moves cast s [] s
  | snoc {s r s' : Session n κ α γ} {t u : Trace n κ α γ} :
      Moves cast s t r → Move cast r u s' → Moves cast s (t ++ u) s'

variable {cast : κ → Controller κ α γ} {s r s' : Session n κ α γ} {t u : Trace n κ α γ}

theorem Move.moves (h : Move cast s t s') : Moves cast s t s' :=
  .snoc (.refl s) h

theorem Moves.trans (h : Moves cast s t r) (h' : Moves cast r u s') :
    Moves cast s (t ++ u) s' := by
  induction h' with
  | refl => rwa [List.append_nil]
  | snoc _ hmove ih =>
    rw [← List.append_assoc]
    exact .snoc ih hmove

/-- A happening in front of others. -/
theorem Moves.cons {e : Happening n κ α γ} (h : Move cast s [e] r) (h' : Moves cast r t s') :
    Moves cast s (e :: t) s' :=
  h.moves.trans h'

/-- A move in which nothing happens in front of others. -/
theorem Moves.after (h : Move cast s [] r) (h' : Moves cast r t s') : Moves cast s t s' :=
  h.moves.trans h'

/-! ## Every command is a row of moves -/

omit [AssetService α] in
/-- A render in one equation: what is opened, what is shown. -/
theorem switchTo_eq (cast : κ → Controller κ α γ) (s : Session n κ α γ) (name : String) :
    s.switchTo cast name = if s.engine.config.isDocumentName name then
      match s.readDocument name with
      | .error _ => s
      | .ok (document, start) => ((s.openDocument document).showScene cast start).2
    else (s.showScene cast name).2 := by
  unfold switchTo
  by_cases hd : s.engine.config.isDocumentName name = true
  · rw [renderScene_of_document cast hd, if_pos hd, loadFile_eq]
    cases s.readDocument name <;> rfl
  · rw [renderScene_of_scene cast (Bool.eq_false_iff.2 hd), if_neg hd]

theorem moves_showScene (cast : κ → Controller κ α γ) (s : Session n κ α γ) (name : String) :
    Moves cast s (s.showTrace cast name) (s.showScene cast name).2 := by
  unfold showTrace showScene
  cases h : s.findScene? name with
  | none => exact .refl s
  | some found => exact (Move.switchScene h).moves

theorem moves_switchTo (cast : κ → Controller κ α γ) (s : Session n κ α γ) (name : String) :
    Moves cast s (s.renderTrace cast name) (s.switchTo cast name) := by
  refine .cons (.ask s name) ?_
  rw [switchTo_eq]
  split
  · cases s.readDocument name with
    | error e => exact .refl s
    | ok read => exact .cons (.openDocument s read.1) (moves_showScene cast _ read.2)
  · exact moves_showScene cast s name

theorem moves_follow (cast : κ → Controller κ α γ) (s : Session n κ α γ)
    (requested : Option String) :
    Moves cast s (s.followTrace cast requested) (s.follow cast requested) := by
  cases requested with
  | none => exact .refl s
  | some name => exact moves_switchTo cast s name

theorem moves_consult {controller : Option κ} (occasion : Occasion)
    (h : ∀ k, controller = some k → s.Answers k occasion) :
    Moves cast s (s.consultTrace cast controller occasion)
      (s.consult cast controller occasion) := by
  unfold consultTrace consult
  cases hscene : s.engine.stage.scene with
  | none => exact .refl s
  | some scene =>
    cases controller with
    | none => exact .refl s
    | some k => exact .cons (.tell hscene (h k rfl)) (moves_follow cast _ _)

theorem moves_step (cast : κ → Controller κ α γ) (s : Session n κ α γ) (dt : Float32) :
    Moves cast s (s.stepTrace cast dt) (s.step cast dt) := by
  have hshown := moves_follow cast s.awake s.engine.pending
  refine .trans (.after (.awake s) hshown) (.after (.act _ dt) ?_)
  rw [step, updateScene_eq]
  exact moves_consult (.update dt) fun k h => h

theorem moves_update (cast : κ → Controller κ α γ) (s : Session n κ α γ) (elapsed : Nat) :
    Moves cast s (s.updateTrace cast elapsed) (s.update cast elapsed) :=
  .after (.tick s _) (moves_step cast _ _)

theorem moves_firePath (cast : κ → Controller κ α γ) (s : Session n κ α γ) (path : List Nat)
    (event : String) :
    Moves cast s (s.firePathTrace cast path event) (s.firePath cast path event).2 := by
  unfold firePathTrace firePath
  cases hscene : s.engine.stage.scene with
  | none => exact .refl s
  | some scene =>
    cases hactor : scene.atPath? path with
    | none =>
      simp only [Option.bind_some, hactor, Option.map_none]
      exact .refl s
    | some actor =>
      simp only [Option.bind_some, hactor, Option.map_some]
      -- the mark is turned over before the action is sent
      have hclick : Move cast s [] (s.clicked scene path event) := .click path event hscene
      change Moves cast s _ (match actor.base.binding? event with
        | some action => (s.clicked scene path event).dispatch cast action
        | none => (false, s.clicked scene path event)).2
      cases actor.base.binding? event with
      | none => exact hclick.moves
      | some action =>
        simp only [dispatch_eq]
        exact .after hclick (moves_consult _ fun k h => h)

theorem moves_fire (cast : κ → Controller κ α γ) (s : Session n κ α γ) (name event : String) :
    Moves cast s (s.fireTrace cast name event) (s.fire cast name event).2 := by
  unfold fireTrace fire
  cases s.engine.stage.scene.bind (·.pathOf? name) with
  | none => exact .refl s
  | some path => exact moves_firePath cast s path event

theorem moves_fireAt (cast : κ → Controller κ α γ) (s : Session n κ α γ) (point : Vec2)
    (event : String) :
    Moves cast s (s.fireAtTrace cast point event) (s.fireAt cast point event).2 := by
  unfold fireAtTrace fireAt
  cases s.engine.stage.scene.bind fun scene => (scene.hit? point).map (scene, ·) with
  | none => exact .refl s
  | some hit => exact moves_firePath cast s _ event

theorem moves_loadStage (cast : κ → Controller κ α γ) (s : Session n κ α γ) :
    Moves cast s (s.loadStageTrace cast) (s.loadStage cast).2 := by
  unfold loadStageTrace
  cases hindex : s.readDocument s.engine.config.indexDocument with
  | error e =>
    rw [loadStage, hindex]
    exact .refl s
  | ok read =>
    cases hloaded : AssetService.load (s.skinned read.1) with
    | error e =>
      -- the skin of before is set again
      unfold loadStage
      simp only [hindex]
      rw [← skinned, hloaded]
      exact (Move.setAssets s _).moves
    | ok assets =>
      have hstart : (s.loadStage cast).2 = (s.installed read.1 assets).switchTo cast read.2 := by
        rw [loadStage_of_loaded cast hindex hloaded, switchTo]
        cases (s.installed read.1 assets).renderScene cast read.2 <;> rfl
      simp only [hloaded, hstart]
      exact .after (.setAssets s assets)
        (.cons (.openDocument _ read.1) (moves_switchTo cast _ read.2))

/-- **Every command is a row of moves**, and its trace says what happens in
them. -/
theorem moves_perform (cast : κ → Controller κ α γ) (s : Session n κ α γ)
    (command : Command κ) :
    Moves cast s (s.performTrace cast command) (s.perform cast command) := by
  cases command with
  | loadStage => exact moves_loadStage cast s
  | loadFile path =>
    simp only [performTrace, perform, loadFile_eq]
    cases s.readDocument path with
    | error e => exact .refl s
    | ok read => exact (Move.openDocument s read.1).moves
  | render name => exact moves_switchTo cast s name
  | update elapsed => exact moves_update cast s elapsed
  | updateBy seconds => exact moves_update cast s _
  | fire actor event => exact moves_fire cast s actor event
  | fireAt point event => exact moves_fireAt cast s point event
  | dispose => exact (Move.dispose s).moves
  | register name controller => exact (Move.register s name controller).moves

/-- **So is every run.** -/
theorem moves_run (cast : κ → Controller κ α γ) (s : Session n κ α γ)
    (commands : List (Command κ)) :
    Moves cast s (s.trace cast commands) (s.run cast commands) := by
  induction commands generalizing s with
  | nil => exact .refl s
  | cons command rest ih => exact (moves_perform cast s command).trans (ih _)

/-! ## What an engine was given -/

/-- No move changes the documents and the libraries that an engine was given. -/
theorem Move.given (h : Move cast s t s') : s'.engine.documents = s.engine.documents ∧
    s'.engine.libraries = s.engine.libraries := by
  cases h with
  | openDocument document =>
    obtain ⟨imports, hopened⟩ := exists_engine_openDocument s document
    rw [hopened]
    exact ⟨rfl, rfl⟩
  | @switchScene _ name definition _ =>
    obtain ⟨pending, hswitched⟩ := exists_engine_switchScene cast s name definition
    rw [hswitched]
    exact ⟨rfl, rfl⟩
  | click path event hscene =>
    unfold clicked
    split <;> exact ⟨rfl, rfl⟩
  | _ => exact ⟨rfl, rfl⟩

theorem Moves.given (h : Moves cast s t s') : s'.engine.documents = s.engine.documents ∧
    s'.engine.libraries = s.engine.libraries := by
  induction h with
  | refl => exact ⟨rfl, rfl⟩
  | snoc _ hmove ih => exact ⟨hmove.given.1.trans ih.1, hmove.given.2.trans ih.2⟩

/-! ## What the trace says of renders -/

/-- A scene is known by the same on the stage. -/
theorem show_place (viewport : Vec2) (scene : Scene) :
    ({ scene with base := Stage.place viewport scene.base } : Scene).show = scene.show := by
  have hname : (Stage.place viewport scene.base).name = scene.base.name := by
    unfold Stage.place
    split <;> rfl
  simp only [Scene.show, Scene.name, hname]

omit [AssetService α] in
@[simp] theorem shows_leaveTrace (s : Session n κ α γ) : Trace.shows s.leaveTrace = [] := by
  unfold leaveTrace
  split <;> rfl

omit [AssetService α] in
@[simp] theorem shows_enterTrace (s : Session n κ α γ) (scene : Scene) :
    Trace.shows (s.enterTrace scene) = [] := by
  unfold enterTrace
  split <;> rfl

omit [AssetService α] in
/-- Of all hooks an arrival calls the one that the scene is entered by. -/
theorem calls_raiseTrace (cast : κ → Controller κ α γ) (s : Session n κ α γ) (name : String)
    (definition : Markup.Node) :
    Trace.calls (s.raiseTrace cast name definition) =
      Trace.calls ((s.assemble name definition).2.enterTrace (s.assemble name definition).1) :=
  (Trace.calls_append _ _).trans (List.append_nil _)

omit [AssetService α] in
/-- A switch shows the scene it puts onto the stage. -/
theorem shows_switchTrace (cast : κ → Controller κ α γ) (s : Session n κ α γ) (name : String)
    (definition : Markup.Node) :
    Trace.shows (s.switchTrace cast name definition) =
      (s.switchScene cast name definition).engine.stage.scene.toList.map Scene.show := by
  have hstage (r : Session n κ α γ) (scene : Scene) :
      (r.attach name scene).engine.stage.scene.toList.map Scene.show = [scene.show] :=
    congrArg ([·]) (show_place _ scene)
  rw [switchScene_eq, raise, hstage, switchTrace, Trace.shows_append, shows_leaveTrace, raiseTrace]
  simp only [List.nil_append, Trace.shows, List.filterMap_cons, Happening.shown?]
  rw [← Trace.shows, Trace.shows_append, shows_enterTrace]
  rfl

omit [AssetService α] in
/-- **A render that finds its scene shows that scene**, and any other shows
none. -/
theorem shows_renderTrace (cast : κ → Controller κ α γ) (s : Session n κ α γ) (name : String) :
    Trace.shows (s.renderTrace cast name) =
      match s.renderScene cast name with
      | .ok (true, s') => s'.engine.stage.scene.toList.map Scene.show
      | _ => [] := by
  have hshow (r : Session n κ α γ) (name : String) : Trace.shows (r.showTrace cast name) =
      match r.showScene cast name with
      | (true, s') => s'.engine.stage.scene.toList.map Scene.show
      | (false, _) => [] := by
    unfold showTrace showScene
    cases r.findScene? name with
    | none => rfl
    | some found => exact shows_switchTrace cast r found.1 found.2
  unfold renderTrace
  rw [Trace.shows, List.filterMap_cons]
  by_cases hd : s.engine.config.isDocumentName name = true
  · rw [if_pos hd, renderScene_of_document cast hd, loadFile_eq]
    cases s.readDocument name with
    | error e => rfl
    | ok read =>
      refine (hshow (s.openDocument read.1) read.2).trans ?_
      simp only [Except.map]
      rcases (s.openDocument read.1).showScene cast read.2 with ⟨_ | _, r⟩ <;> rfl
  · rw [if_neg hd, renderScene_of_scene cast (Bool.eq_false_iff.2 hd)]
    refine (hshow s name).trans ?_
    rcases s.showScene cast name with ⟨_ | _, r⟩ <;> rfl

/-! ## A record that hooks keep themselves -/

section Record

variable {record : γ → List (Told κ)}

omit [AssetService α] in
/-- The record when the old scene has left. -/
theorem record_leave (h : ∀ e ∈ s.leaveTrace, e.Records cast record) :
    record (s.leave cast).world.host = record s.world.host ++ Trace.calls s.leaveTrace := by
  rcases leave_cases cast s with ⟨hnone, hleft⟩ | ⟨scene, controller, hscene, hcontroller, hleft⟩
  · rw [hleft, leaveTrace_of_none hnone]
    exact (List.append_nil _).symm
  · rw [leaveTrace_of_some hscene hcontroller] at h ⊢
    rw [hleft]
    exact h _ (List.mem_singleton_self _)

omit [AssetService α] in
/-- The record when the new scene has entered. -/
theorem record_enter (cast : κ → Controller κ α γ) (s : Session n κ α γ) (scene : Scene)
    (h : ∀ e ∈ s.enterTrace scene, e.Records cast record) :
    record (s.enter cast scene).2.world.host =
      record s.world.host ++ Trace.calls (s.enterTrace scene) := by
  unfold enter enterTrace at *
  cases hcurrent : s.scope.current with
  | none => exact (List.append_nil _).symm
  | some entry =>
    rw [hcurrent] at h
    exact h _ (List.mem_singleton_self _)

omit [AssetService α] in
/-- The record when the new scene is on the stage. -/
theorem record_raise {name : String} {definition : Markup.Node}
    (h : ∀ e ∈ s.raiseTrace cast name definition, e.Records cast record) :
    record (s.raise cast name definition).world.host =
      record s.world.host ++ Trace.calls (s.raiseTrace cast name definition) := by
  have hbuilt : record (s.assemble name definition).2.world.host = record s.world.host :=
    h _ List.mem_cons_self
  have hentered := record_enter cast ((s.assemble name definition).2.setPhase .built)
    (s.assemble name definition).1 fun e he =>
      h e (List.mem_cons_of_mem _ (List.mem_append_left _ he))
  rw [raise_eq, calls_raiseTrace, ← hbuilt]
  exact hentered

/-- **Every move adds its calls to the record.** -/
theorem record_move (hmove : Move cast s t s') (h : ∀ e ∈ t, e.Records cast record) :
    record s'.world.host = record s.world.host ++ Trace.calls t := by
  cases hmove with
  | openDocument document =>
    rw [world_openDocument]
    exact (h _ (List.mem_singleton_self _)).trans (List.append_nil _).symm
  | tell hscene hanswers => exact h _ (List.mem_singleton_self _)
  | switchScene hfound =>
    rw [switchScene_eq, switchTrace, Trace.calls_append, ← List.append_assoc,
      ← record_leave fun e he => h e (List.mem_append_left _ he)]
    exact record_raise fun e he => h e (List.mem_append_right _ he)
  | click path event hscene =>
    rw [clicked]
    split <;> exact (List.append_nil _).symm
  | _ => exact (List.append_nil _).symm

/-- **Where hooks write their calls down, the record of a run reads as its
trace.** -/
theorem record_run {commands : List (Command κ)}
    (h : ∀ e ∈ s.trace cast commands, e.Records cast record) :
    record (s.run cast commands).world.host =
      record s.world.host ++ Trace.calls (s.trace cast commands) := by
  have hmoves := moves_run cast s commands
  generalize s.run cast commands = s', s.trace cast commands = t at h hmoves
  induction hmoves with
  | refl => exact (List.append_nil _).symm
  | snoc _ hmove ih =>
    rw [record_move hmove fun e he => h e (List.mem_append_right _ he),
      ih fun e he => h e (List.mem_append_left _ he), List.append_assoc, ← Trace.calls_append]

end Record

end Session

end SceneScript
