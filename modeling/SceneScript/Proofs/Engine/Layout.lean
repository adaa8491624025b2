import SceneScript.Proofs.Engine.Since
/-!
# Engine — filling the parent

An actor may be flagged to fill what it stands in: an actor the one around it,
a scene the stage. A scene always is, and it does fill the stage: it is placed
when it goes there, and again whenever the stage changes its size. Nothing
does the same inside the scene. An actor there keeps the bounds that the
directives gave it, whatever becomes of its parent.

The layout of a scene is its bounds and flag, with those of all that is inside
it. Where hooks leave the layout alone, the scene fills the stage, and all that
is inside stands as it was built, however the stage is stretched meanwhile. So
what is flagged inside a scene fills its parent exactly when it happens to have
been built that way (`filled_serve_iff`).
-/

namespace SceneScript

variable {n : Nat} {κ α γ : Type}

/-! ## Layouts -/

/-- Where an actor or a scene stands, whether it is to fill what it stands in,
and the same of all that is inside it. -/
structure Layout where
  bounds : Rect
  fillParent : Bool
  children : List Layout

namespace Layout

mutual

/-- Whatever is flagged fills its parent, at any depth, where the outermost
parent has a size. -/
def Fills (size : Vec2) : Layout → Prop
  | ⟨bounds, fillParent, children⟩ =>
    (fillParent = true → bounds = ⟨.zero, size⟩) ∧ FillsEach bounds.size children

/-- The same of a list of children. -/
def FillsEach (size : Vec2) : List Layout → Prop
  | [] => True
  | layout :: rest => layout.Fills size ∧ FillsEach size rest

end

deriving instance DecidableEq for Vec2, Rect

mutual

/-- It can be decided whether a layout fills. -/
def decideFills (size : Vec2) : (layout : Layout) → Decidable (layout.Fills size)
  | ⟨bounds, fillParent, children⟩ =>
    have := decideFillsEach bounds.size children
    inferInstanceAs (Decidable
      ((fillParent = true → bounds = ⟨.zero, size⟩) ∧ FillsEach bounds.size children))

/-- And whether children do. -/
def decideFillsEach (size : Vec2) : (layouts : List Layout) → Decidable (FillsEach size layouts)
  | [] => inferInstanceAs (Decidable True)
  | layout :: rest =>
    have := decideFills size layout
    have := decideFillsEach size rest
    inferInstanceAs (Decidable (layout.Fills size ∧ FillsEach size rest))

end

instance (size : Vec2) (layout : Layout) : Decidable (layout.Fills size) := layout.decideFills size

end Layout

namespace Actor

mutual

/-- The layout of an actor. -/
def layout : Actor → Layout
  | ⟨base, _, children⟩ => ⟨base.bounds, base.fillParent, layoutEach children⟩

/-- The layouts of a list of actors. -/
def layoutEach : List Actor → List Layout
  | [] => []
  | actor :: rest => actor.layout :: layoutEach rest

end

end Actor

/-- Where something stands, and whether it is to fill its parent. -/
def Base.frame (base : Base) : Rect × Bool :=
  (base.bounds, base.fillParent)

/-- Where a scene stands, and whether it is to fill the stage. -/
def Scene.frame (scene : Scene) : Rect × Bool :=
  scene.base.frame

/-- The layouts of what is inside a scene. -/
def Scene.inside (scene : Scene) : List Layout :=
  Actor.layoutEach scene.actors

/-- The layout of a scene. -/
def Scene.layout (scene : Scene) : Layout :=
  ⟨scene.base.bounds, scene.base.fillParent, scene.inside⟩

/-- Whatever of the scene on a stage is flagged fills its parent, at any depth.
The parent of the scene is the stage. -/
def Stage.Filled (stage : Stage) : Prop :=
  ∀ scene ∈ stage.scene, scene.layout.Fills stage.viewport

instance (stage : Stage) : Decidable stage.Filled :=
  inferInstanceAs (Decidable (∀ scene ∈ stage.scene, scene.layout.Fills stage.viewport))

/-! ## What leaves a layout alone -/

namespace Actor

mutual

/-- Time moves no actor. -/
theorem layout_act (dt : Float32) : (actor : Actor) → (actor.act dt).layout = actor.layout
  | ⟨base, kind, children⟩ => by
    rw [act, layout, layout, layoutEach_actEach dt children]
    rfl

theorem layoutEach_actEach (dt : Float32) :
    (actors : List Actor) → layoutEach (actEach dt actors) = layoutEach actors
  | [] => rfl
  | actor :: rest => by
    rw [actEach, layoutEach, layoutEach, layout_act dt actor, layoutEach_actEach dt rest]

end

/-- Nor does a click. -/
theorem layout_toggled (actor : Actor) : actor.toggled.layout = actor.layout := by
  obtain ⟨base, kind, children⟩ := actor
  cases kind <;> rfl

theorem layoutEach_modify {edit : Actor → Actor} (h : ∀ actor, (edit actor).layout = actor.layout)
    (actors : List Actor) (i : Nat) : layoutEach (actors.modify i edit) = layoutEach actors := by
  induction actors generalizing i with
  | nil => rw [List.modify_nil]
  | cons actor rest ih =>
    cases i with
    | zero => rw [List.modify_zero_cons, layoutEach, layoutEach, h]
    | succ i => rw [List.modify_succ_cons, layoutEach, layoutEach, ih]

/-- An edit that leaves the layout of an actor alone leaves that of the tree
alone. -/
theorem layoutEach_editAt {edit : Actor → Actor} (h : ∀ actor, (edit actor).layout = actor.layout)
    (actors : List Actor) (path : List Nat) :
    layoutEach (editAt edit actors path) = layoutEach actors := by
  induction path generalizing actors with
  | nil => rfl
  | cons i path ih =>
    refine layoutEach_modify (fun actor => ?_) actors i
    split
    · exact h actor
    · obtain ⟨base, kind, children⟩ := actor
      rw [layout, layout, ih]

end Actor

/-! ## Commands and changes of size -/

/-- What a host does with an engine whose stage it can stretch. -/
inductive Order (κ : Type) where
  /-- It gives a command. -/
  | command (command : Command κ)
  /-- It changes the size of the stage. -/
  | resize (viewport : Vec2)

namespace Session

variable {cast : κ → Controller κ α γ} {s s' q : Session n κ α γ} {t u later : Trace n κ α γ}
  {scene scene' : Scene} {name : String} {definition : Markup.Node}

/-- The session with a stage of another size. -/
def resize (s : Session n κ α γ) (viewport : Vec2) : Session n κ α γ :=
  s.setStage (s.engine.stage.setViewport viewport)

section Orders

variable [AssetService α]

/-- The session after an order. -/
def obey (cast : κ → Controller κ α γ) (s : Session n κ α γ) : Order κ → Session n κ α γ
  | .command command => s.perform cast command
  | .resize viewport => s.resize viewport

/-- The session after orders in a row. -/
def serve (cast : κ → Controller κ α γ) (s : Session n κ α γ) (orders : List (Order κ)) :
    Session n κ α γ :=
  orders.foldl (obey cast) s

/-- What happens on an order. A change of size is no happening. -/
def obeyTrace (cast : κ → Controller κ α γ) (s : Session n κ α γ) : Order κ → Trace n κ α γ
  | .command command => s.performTrace cast command
  | .resize _ => []

/-- What happens on orders in a row. -/
def serveTrace (cast : κ → Controller κ α γ) :
    Session n κ α γ → List (Order κ) → Trace n κ α γ
  | _, [] => []
  | s, order :: rest => s.obeyTrace cast order ++ (s.obey cast order).serveTrace cast rest

end Orders

/-! ## The layout of the scene on the stage -/

/-- How a scene stands since it was built: it fills the stage where hooks have
left its own bounds and flag alone, and all that is inside it stands as it was
built where they have left that alone. -/
structure Arranged (cast : κ → Controller κ α γ) (q : Session n κ α γ) (name : String)
    (definition : Markup.Node) (later : Trace n κ α γ) (s : Session n κ α γ) (scene : Scene) :
    Prop where
  frame : (∀ e ∈ later, e.Keeps cast Scene.frame) →
    scene.frame = (⟨.zero, s.engine.stage.viewport⟩, true)
  inside : (∀ e ∈ later, e.Keeps cast Scene.inside) →
    scene.inside = (q.assemble name definition).1.inside

/-- What is flagged is placed. -/
theorem frame_place {base : Base} (viewport : Vec2) (h : base.fillParent = true) :
    (Stage.place viewport base).frame = (⟨.zero, viewport⟩, true) := by
  simp [Base.frame, Stage.place, h]

/-- **A scene is placed when it goes onto the stage**, and what is inside it is
not. -/
theorem arranged_raise (s : Session n κ α γ) (name : String) (definition : Markup.Node)
    (scene : Scene) (hscene : (s.raise cast name definition).engine.stage.scene = some scene) :
    Arranged cast s name definition (s.entryTrace cast name definition)
      (s.raise cast name definition) scene := by
  obtain ⟨pending, hraised⟩ := exists_engine_raise cast s name definition
  rw [hraised] at hscene
  cases hscene
  constructor
  · intro hentry
    -- the scene is built with the flag
    have hentered : (s.entered cast name definition).1.frame = (.zero, true) :=
      view_enter (List.forall_mem_append.1 hentry).1
    rw [hraised]
    exact frame_place _ (congrArg Prod.snd hentered)
  · intro hentry
    have hentered : (s.entered cast name definition).1.inside =
        (s.assemble name definition).1.inside := view_enter (List.forall_mem_append.1 hentry).1
    exact hentered

/-- **A scene is placed again when the stage changes its size**, and what is
inside it is not. -/
theorem retains_arranged_resize (s : Session n κ α γ) (viewport : Vec2) :
    s.Retains (Arranged cast) [] (s.resize viewport) := by
  intro scene' hscene'
  obtain ⟨scene, hscene, rfl⟩ := Option.map_eq_some_iff.1 hscene'
  refine ⟨scene, hscene, fun q name definition later harranged => ?_⟩
  rw [List.append_nil]
  exact ⟨fun hlater => frame_place viewport (congrArg Prod.snd (harranged.frame hlater)),
    harranged.inside⟩

variable [AssetService α]

/-- No move changes the size of the stage. -/
theorem Move.viewport (hmove : Move cast s u s') :
    s'.engine.stage.viewport = s.engine.stage.viewport := by
  cases hmove with
  | openDocument document =>
    obtain ⟨imports, hopened⟩ := exists_engine_openDocument s document
    rw [hopened]
  | @switchScene _ name definition _ =>
    obtain ⟨pending, hswitched⟩ := exists_engine_switchScene cast s name definition
    rw [hswitched]
    rfl
  | click path event hscene =>
    unfold clicked
    split <;> rfl
  | _ => rfl

/-- **Every move leaves the layout alone**, where hooks do. -/
theorem Move.retains_arranged (hmove : Move cast s u s') (hbuilds : ∀ e ∈ u, ¬ e.Builds) :
    s.Retains (Arranged cast) u s' := by
  intro scene' hscene'
  obtain ⟨scene, hscene, hstays⟩ := hmove.stays hbuilds hscene'
  refine ⟨scene, hscene, fun q name definition later harranged => ⟨fun hall => ?_, fun hall => ?_⟩⟩
  · obtain ⟨hlater, hu⟩ := List.forall_mem_append.1 hall
    have hframe : scene'.frame = scene.frame := hstays.view (fun _ _ => rfl) (fun _ _ => rfl) hu
    rw [hframe, harranged.frame hlater, hmove.viewport]
  · obtain ⟨hlater, hu⟩ := List.forall_mem_append.1 hall
    have hinside : scene'.inside = scene.inside :=
      hstays.view (fun scene dt => Actor.layoutEach_actEach dt scene.actors)
        (fun scene path => Actor.layoutEach_editAt Actor.layout_toggled scene.actors path) hu
    rw [hinside, harranged.inside hlater]

theorem Since.serve_arranged (h : s.Since (Arranged cast) t) (orders : List (Order κ)) :
    (s.serve cast orders).Since (Arranged cast) (t ++ s.serveTrace cast orders) := by
  induction orders generalizing s t with
  | nil =>
    rw [serveTrace, List.append_nil]
    exact h
  | cons order rest ih =>
    rw [serveTrace, ← List.append_assoc]
    refine ih ?_
    cases order with
    | command command =>
      exact h.moves arranged_raise Move.retains_arranged (moves_perform cast s command)
    | resize viewport =>
      exact h.retain (retains_arranged_resize s viewport) (List.forall_mem_nil _)

/-- **What is flagged fills its parent as far as it was built to.** Whatever an
engine is told to do, and however its stage is stretched, the scene on the
stage was built in some session from the definition that the document in use
had for its name, and nothing but hooks has laid it out since.
Where hooks leave the bounds and the flag of the scene alone, the scene fills
the stage, so that all that is flagged fills its parent exactly when all that
is flagged inside the scene does. And where they leave those of what is inside
alone, all that is inside has the bounds and flags that it was built with. -/
theorem filled_serve_iff (hnone : s.engine.stage.scene = none) {orders : List (Order κ)}
    (hscene : (s.serve cast orders).engine.stage.scene = some scene) :
    ∃ q name definition later, (s.serveTrace cast orders).LastBuilt q name definition later ∧
      ((∀ e ∈ later, e.Keeps cast Scene.frame) →
        scene.base.bounds = ⟨.zero, (s.serve cast orders).engine.stage.viewport⟩ ∧
          ((s.serve cast orders).engine.stage.Filled ↔
            Layout.FillsEach (s.serve cast orders).engine.stage.viewport scene.inside)) ∧
      ((∀ e ∈ later, e.Keeps cast Scene.inside) →
        scene.inside = (q.assemble name definition).1.inside) := by
  have hbare : s.Since (Arranged cast) [] := fun scene hscene => by cases hnone.symm.trans hscene
  obtain ⟨q, name, definition, later, hlast, harranged⟩ :=
    hbare.serve_arranged orders scene hscene
  refine ⟨q, name, definition, later, hlast, fun hkeeps => ?_, harranged.inside⟩
  have hbounds : scene.base.bounds = ⟨.zero, (s.serve cast orders).engine.stage.viewport⟩ :=
    congrArg Prod.fst (harranged.frame hkeeps)
  refine ⟨hbounds, ?_⟩
  rw [Stage.Filled, hscene]
  simp only [Option.mem_def, Option.some.injEq, forall_eq', Scene.layout, Layout.Fills, hbounds]
  exact and_iff_right fun _ => trivial

/-- An engine whose only scene has a table that is to fill it, with a label in
it. -/
def parlour : Session 1 Unit SkinAssets Unit :=
  solo {} (MemorySource.load [("index.xml",
    "<stage><scene name='hall'><table fillParent='true'><label text='a'/></table></scene>" ++
      "</stage>")]) {} ()

/-- The hall is shown and stretched. -/
theorem filled_serve_iff_parlour :
    let orders := [.command .loadStage, .resize ⟨640, 480⟩, .command (.update 16)]
    let after := parlour.serve (fun _ => {}) orders
    parlour.engine.stage.scene = none ∧
      ∃ scene q name definition later, after.engine.stage.scene = some scene ∧
        (parlour.serveTrace (fun _ => {}) orders).LastBuilt q name definition later ∧
        ((∀ e ∈ later, e.Keeps (fun _ => {}) Scene.frame) →
          scene.base.bounds = ⟨.zero, after.engine.stage.viewport⟩ ∧
            (after.engine.stage.Filled ↔
              Layout.FillsEach after.engine.stage.viewport scene.inside)) ∧
        ((∀ e ∈ later, e.Keeps (fun _ => {}) Scene.inside) →
          scene.inside = (q.assemble name definition).1.inside) := by
  intro orders after
  have hstaged : after.engine.stage.scene.isSome = true := by decide +kernel
  obtain ⟨scene, hscene⟩ := Option.isSome_iff_exists.1 hstaged
  obtain ⟨q, name, definition, later, hrest⟩ := filled_serve_iff rfl hscene
  exact ⟨rfl, scene, q, name, definition, later, hscene, hrest⟩

/-- **Inside a scene nothing is placed.** The table of the hall is flagged, and
it fills the hall neither when the hall is rendered nor when the stage is
stretched afterwards. -/
theorem not_filled_parlour :
    let opened := parlour.run (fun _ => {}) [.loadFile "index.xml"]
    ∃ r, opened.renderScene (fun _ => {}) "hall" = .ok (true, r) ∧
      ¬ r.engine.stage.Filled ∧ ¬ (r.resize ⟨640, 480⟩).engine.stage.Filled := by
  intro opened
  have hscene : opened.engine.config.isDocumentName "hall" = false := by decide +kernel
  have hfound : (opened.showScene (fun _ => {}) "hall").1 = true := by decide +kernel
  refine ⟨(opened.showScene (fun _ => {}) "hall").2, ?_, by decide +kernel, by decide +kernel⟩
  rw [renderScene_of_scene _ hscene]
  exact congrArg Except.ok (Prod.ext hfound rfl)

end Session

end SceneScript
