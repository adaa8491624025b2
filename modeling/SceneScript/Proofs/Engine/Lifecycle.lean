import SceneScript.Proofs.Engine.Orderly
/-!
# Engine — the lives of scenes

The calls of hooks in a run come in blocks, one for each scene that was
rendered, in the order of the renders. A scene whose controller is registered
is entered first and exited last, and between the two the same controller is
told of frames and actions. Of any other scene only actions are told, and only
to the root controller. So at most one scene is open at a time, and no hook
reaches a scene before it was entered or after it was exited.

That much depends on everybody's keeping their hands off the controllers:
those are registered before the first render, hooks and directives neither
change them nor put one in charge, and a scene stays on the stage under its
name until the next one comes (`Happening.Orderly`). The invariant is
`Bracketed`: the calls so far are the blocks of the scenes that have left, and
of the block of the scene on the stage all but the exit (`exists_blocks_run`).
-/

namespace SceneScript

variable {n : Nat} {κ α γ : Type}

/-! ## Blocks -/

/-- An occasion between the entry of a scene and its exit. -/
def Occasion.Between : Occasion → Prop
  | .update _ => True
  | .action _ => True
  | _ => False

namespace Company

variable {company : Company κ} {about : Show}

/-- **A block**: the calls about a scene from its render to the next. -/
inductive IsBlock (company : Company κ) (about : Show) : List (Told κ) → Prop where
  /-- Of a scene whose controller is registered. -/
  | accompanied {controller : κ} (calls : List (Told κ)) :
      company.controller? about = some controller →
      (∀ call ∈ calls, call.controller = controller ∧ call.about = about ∧
        call.occasion.Between) →
      IsBlock company about (⟨controller, .enter, about⟩ :: calls ++ [⟨controller, .exit, about⟩])
  /-- Of any other scene. -/
  | alone {calls : List (Told κ)} :
      company.controller? about = none →
      (∀ call ∈ calls, company.root = some call.controller ∧ call.about = about ∧
        ∃ name, call.occasion = .action name) →
      IsBlock company about calls

/-- The call that the controller of a scene gets on an occasion, if it is
registered. -/
def callsOn (company : Company κ) (occasion : Occasion) (about : Show) : List (Told κ) :=
  (company.controller? about).toList.map fun controller => ⟨controller, occasion, about⟩

theorem callsOn_of_some {controller : κ} (h : company.controller? about = some controller)
    (occasion : Occasion) : company.callsOn occasion about = [⟨controller, occasion, about⟩] := by
  rw [callsOn, h]
  rfl

theorem callsOn_of_none (h : company.controller? about = none) (occasion : Occasion) :
    company.callsOn occasion about = [] := by
  rw [callsOn, h]
  rfl

/-- A scene that is entered and exited at once makes a block. -/
theorem isBlock_enter_exit (company : Company κ) (about : Show) :
    company.IsBlock about (company.callsOn .enter about ++ company.callsOn .exit about) := by
  cases h : company.controller? about with
  | none =>
    rw [callsOn_of_none h, callsOn_of_none h]
    exact .alone h (by simp)
  | some controller =>
    rw [callsOn_of_some h, callsOn_of_some h]
    exact .accompanied [] h (by simp)

/-- Who may be told something of a scene between its entry and its exit. -/
def Answers (company : Company κ) (about : Show) (controller : κ) : Occasion → Prop
  | .update _ => company.controller? about = some controller
  | .action _ => (company.controller? about).or company.root = some controller
  | _ => False

/-- Where a scene has its controller, nobody else answers. -/
theorem Answers.of_some {controller own : κ} {occasion : Occasion}
    (h : company.Answers about controller occasion) (hown : company.controller? about = some own) :
    controller = own ∧ occasion.Between := by
  cases occasion with
  | action name =>
    rw [Answers, hown, Option.some_or] at h
    exact ⟨(Option.some.inj h).symm, trivial⟩
  | update dt => exact ⟨Option.some.inj (h.symm.trans hown), trivial⟩
  | enter => exact h.elim
  | exit => exact h.elim

/-- Where it has none, the root controller answers, and to actions only. -/
theorem Answers.of_none {controller : κ} {occasion : Occasion}
    (h : company.Answers about controller occasion) (hnone : company.controller? about = none) :
    company.root = some controller ∧ ∃ name, occasion = .action name := by
  cases occasion with
  | action name =>
    rw [Answers, hnone, Option.none_or] at h
    exact ⟨h, name, rfl⟩
  | update dt => cases hnone.symm.trans h
  | enter => exact h.elim
  | exit => exact h.elim

/-- **A call that is answered fits into the block before the exit.** -/
theorem IsBlock.insert {calls : List (Told κ)} {controller : κ} {occasion : Occasion}
    (h : company.IsBlock about (calls ++ company.callsOn .exit about))
    (hanswers : company.Answers about controller occasion) :
    company.IsBlock about
      (calls ++ [⟨controller, occasion, about⟩] ++ company.callsOn .exit about) := by
  cases hcontroller : company.controller? about with
  | none =>
    obtain ⟨hroot, haction⟩ := hanswers.of_none hcontroller
    rw [callsOn_of_none hcontroller, List.append_nil] at *
    cases h with
    | accompanied _ hsome => cases hcontroller.symm.trans hsome
    | alone _ hcalls =>
      refine .alone hcontroller (List.forall_mem_append.2 ⟨hcalls, ?_⟩)
      exact List.forall_mem_singleton.2 ⟨hroot, rfl, haction⟩
  | some own =>
    obtain ⟨rfl, hbetween⟩ := hanswers.of_some hcontroller
    rw [callsOn_of_some hcontroller] at *
    generalize hblock : calls ++ [⟨controller, .exit, about⟩] = block at h
    cases h with
    | alone hnone => cases hcontroller.symm.trans hnone
    | @accompanied other middle hsome hmiddle =>
      cases hcontroller.symm.trans hsome
      -- both blocks end in the one exit, so the calls before it are the entry and what followed
      obtain rfl := List.append_cancel_right hblock
      refine .accompanied (middle ++ [⟨controller, occasion, about⟩]) hcontroller
        (List.forall_mem_append.2 ⟨hmiddle, ?_⟩)
      exact List.forall_mem_singleton.2 ⟨rfl, rfl, hbetween⟩

end Company

namespace Session

variable {cast : κ → Controller κ α γ} {s s' : Session n κ α γ} {t u : Trace n κ α γ}

/-! ## What a switch calls -/

/-- The calls that the scene on the stage has still to come: its exit. -/
def due (s : Session n κ α γ) : List (Told κ) :=
  Trace.calls s.leaveTrace

theorem due_of_none (h : s.engine.stage.scene = none) : s.due = [] := by
  rw [due, leaveTrace, h]
  rfl

theorem due_of_some {scene : Scene} (h : s.engine.stage.scene = some scene) :
    s.due = s.scope.company.callsOn .exit scene.show := by
  rw [due, leaveTrace, h, sceneController?_of_some h, Company.callsOn]
  cases s.scope.company.controller? scene.show <;> rfl

/-- The controller in charge is told of the entry, and it is the one that the
scene declares. -/
theorem calls_enterTrace {scene : Scene}
    (h : s.scope.current = scene.controller.bind fun name =>
      (s.scope.controller? name).map (name, ·)) :
    Trace.calls (s.enterTrace scene) = s.scope.company.callsOn .enter scene.show := by
  have hcontroller : s.scope.company.controller? scene.show = s.scope.current.map Prod.snd := by
    rw [h, Option.map_bind]
    simp only [Function.comp_def, Option.map_map, Option.map_id']
    rfl
  rw [enterTrace, Company.callsOn, hcontroller]
  cases s.scope.current <;> rfl

/-- **An arrival in order**: the controllers stay, the scene comes onto the
stage under its name, and of all hooks its entry is called. -/
theorem raise_orderly (cast : κ → Controller κ α γ) {name : String} {definition : Markup.Node}
    (h : ∀ e ∈ s.raiseTrace cast name definition, e.Orderly cast) :
    (s.raise cast name definition).scope.company = s.scope.company ∧
      (s.raise cast name definition).engine.stage.scene.map Scene.show =
        some ⟨name, definition.attr? "controller"⟩ ∧
      Trace.calls (s.raiseTrace cast name definition) =
        s.scope.company.callsOn .enter ⟨name, definition.attr? "controller"⟩ := by
  obtain ⟨hcompany, hcurrent⟩ := company_assemble (h _ List.mem_cons_self)
  obtain ⟨hkept, hshow⟩ := company_enter cast ((s.assemble name definition).2.setPhase .built)
    (s.assemble name definition).1 fun e he =>
      h e (List.mem_cons_of_mem _ (List.mem_append_left _ he))
  refine ⟨hkept.trans hcompany, ?_, ?_⟩
  · exact congrArg some ((show_place _ _).trans hshow)
  · rw [calls_raiseTrace, calls_enterTrace hcurrent, hcompany]
    rfl

/-- Who is told in a session is who answers in its company. -/
theorem Answers.company {scene : Scene} {controller : κ} {occasion : Occasion}
    (h : s.Answers controller occasion) (hscene : s.engine.stage.scene = some scene) :
    s.scope.company.Answers scene.show controller occasion := by
  have hcontroller := sceneController?_of_some hscene
  cases occasion with
  | update dt => exact hcontroller.symm.trans h
  | action name =>
    rw [Session.Answers, actionController?, hcontroller] at h
    exact h
  | enter => exact h.elim
  | exit => exact h.elim

/-! ## Runs in blocks -/

/-- The calls so far: the blocks of the scenes that have left, and of the block
of the scene on the stage all but the exit. -/
inductive Bracketed (t : Trace n κ α γ) (s : Session n κ α γ) : Prop where
  | bare : s.engine.stage.scene = none → Trace.calls t = [] → Trace.shows t = [] → Bracketed t s
  | staged {scene : Scene} (blocks : List (Show × List (Told κ))) (calls : List (Told κ)) :
      s.engine.stage.scene = some scene →
      Trace.shows t = blocks.map Prod.fst ++ [scene.show] →
      Trace.calls t = blocks.flatMap Prod.snd ++ calls →
      (∀ block ∈ blocks, s.scope.company.IsBlock block.1 block.2) →
      s.scope.company.IsBlock scene.show (calls ++ s.due) →
      Bracketed t s

/-- With the exit that is due, the last block is whole as well. -/
theorem Bracketed.exists_blocks (h : s.Bracketed t) : ∃ blocks : List (Show × List (Told κ)),
    blocks.map Prod.fst = Trace.shows t ∧
      (∀ block ∈ blocks, s.scope.company.IsBlock block.1 block.2) ∧
      Trace.calls t ++ s.due = blocks.flatMap Prod.snd := by
  cases h with
  | bare hscene hcalls hshows =>
    refine ⟨[], hshows.symm, by simp, ?_⟩
    rw [hcalls, due_of_none hscene]
    rfl
  | @staged scene blocks calls hscene hshows hcalls hblocks hlast =>
    refine ⟨blocks ++ [(scene.show, calls ++ s.due)], ?_, fun block hblock => ?_, ?_⟩
    · rw [hshows, List.map_append]
      rfl
    · rcases List.mem_append.1 hblock with hblock | hblock
      · exact hblocks block hblock
      · obtain rfl := List.mem_singleton.1 hblock
        exact hlast
    · rw [hcalls, List.flatMap_append, List.flatMap_singleton, List.append_assoc]

/-- What calls no hook, shows nothing, and keeps scene and controllers, keeps
the blocks. -/
theorem Bracketed.quiet (h : s.Bracketed t) (hcalls : Trace.calls u = [])
    (hshows : Trace.shows u = [])
    (hscene : s'.engine.stage.scene.map Scene.show = s.engine.stage.scene.map Scene.show)
    (hcompany : s.engine.stage.scene.isSome → s'.scope.company = s.scope.company) :
    s'.Bracketed (t ++ u) := by
  cases h with
  | bare hnone hcalls' hshows' =>
    refine .bare ?_ (by rw [Trace.calls_append, hcalls', hcalls]; rfl)
      (by rw [Trace.shows_append, hshows', hshows]; rfl)
    rwa [hnone, Option.map_none, Option.map_eq_none_iff] at hscene
  | @staged scene blocks calls hsome hshows' hcalls' hblocks hlast =>
    rw [hsome, Option.map_some, Option.map_eq_some_iff] at hscene
    obtain ⟨scene', hscene', hshow⟩ := hscene
    have hkept := hcompany (by rw [hsome]; rfl)
    refine .staged blocks calls hscene' ?_ ?_ (hkept ▸ hblocks) ?_
    · rw [Trace.shows_append, hshows', hshows, List.append_nil, hshow]
    · rw [Trace.calls_append, hcalls', hcalls, List.append_nil]
    · rw [due_of_some hscene', hshow, hkept, ← due_of_some hsome]
      exact hlast

/-- A controller that is told of a frame or of an action adds to the last
block. -/
theorem Bracketed.tell (h : s.Bracketed t) {scene : Scene} {controller : κ} {occasion : Occasion}
    (hscene : s.engine.stage.scene = some scene) (hanswers : s.Answers controller occasion)
    (horderly : (Happening.told (n := n) controller occasion (s.cue scene)).Orderly cast) :
    (s.tell cast controller occasion scene).Bracketed
      (t ++ [.told controller occasion (s.cue scene)]) := by
  have hcompany : (s.tell cast controller occasion scene).scope.company = s.scope.company :=
    (congrArg Scope.company (scope_resume _ _)).trans horderly.1
  have hshow : (s.heard cast controller occasion scene).scene.show = scene.show := horderly.2
  cases h with
  | bare hnone => cases hscene.symm.trans hnone
  | @staged _ blocks calls hsome hshows hcalls hblocks hlast =>
    cases hscene.symm.trans hsome
    -- the exit that is due is the same before and after, as scene and controllers are
    rw [due_of_some hscene] at hlast
    refine .staged blocks (calls ++ [⟨controller, occasion, scene.show⟩]) rfl
      ?_ ?_ (hcompany ▸ hblocks) ?_
    · rw [Trace.shows_append, hshows, hshow]
      exact List.append_nil _
    · rw [Trace.calls_append, hcalls, List.append_assoc]
      rfl
    · rw [due_of_some rfl, hcompany, hshow]
      exact hlast.insert (hanswers.company hscene)

/-- A switch makes the last block whole and begins one. -/
theorem Bracketed.switchScene (h : s.Bracketed t) {name : String} {definition : Markup.Node}
    (horderly : ∀ e ∈ s.switchTrace cast name definition, e.Orderly cast) :
    (s.switchScene cast name definition).Bracketed (t ++ s.switchTrace cast name definition) := by
  have hleave := company_leave cast fun e he => horderly e (List.mem_append_left _ he)
  obtain ⟨hkept, hscene, hentered⟩ :=
    raise_orderly cast fun e he => horderly e (List.mem_append_right _ he)
  -- the departure makes the exit that was due, so all that was called so far is whole blocks
  obtain ⟨blocks, hshows, hblocks, hcalls⟩ := h.exists_blocks
  rw [← switchScene_eq, hleave] at hkept
  rw [← switchScene_eq, Option.map_eq_some_iff] at hscene
  obtain ⟨scene, hscene, hshow⟩ := hscene
  refine .staged blocks (s.scope.company.callsOn .enter scene.show) hscene
    ?_ ?_ (hkept ▸ hblocks) ?_
  · rw [Trace.shows_append, shows_switchTrace, hscene, hshows]
    rfl
  · rw [Trace.calls_append, switchTrace, Trace.calls_append, ← due, ← List.append_assoc, hcalls,
      hentered, hleave, hshow]
  · rw [due_of_some hscene, hkept]
    exact Company.isBlock_enter_exit _ _

variable [AssetService α]

/-- **Every orderly move keeps the calls in blocks.** -/
theorem Bracketed.move (h : s.Bracketed t) (hmove : Move cast s u s')
    (horderly : ∀ e ∈ u, e.Orderly cast) : s'.Bracketed (t ++ u) := by
  cases hmove with
  | openDocument document =>
    obtain ⟨imports, hopened⟩ := exists_engine_openDocument s document
    exact h.quiet rfl rfl (by rw [hopened]) (horderly _ (List.mem_singleton_self _))
  | register name controller =>
    exact h.quiet rfl rfl rfl (horderly _ (List.mem_singleton_self _))
  | tell hscene hanswers =>
    exact h.tell hscene hanswers (horderly _ (List.mem_singleton_self _))
  | switchScene hfound => exact h.switchScene horderly
  | dispose =>
    -- in order only an empty stage is disposed of
    have hnone : s.engine.stage.scene = none := horderly _ (List.mem_singleton_self _)
    refine h.quiet rfl rfl ?_ ?_
    · rw [hnone]
      rfl
    · rw [hnone]
      exact nofun
  | click path event hscene =>
    unfold clicked
    split
    · exact h.quiet rfl rfl (by rw [hscene]; rfl) fun _ => rfl
    · exact h.quiet rfl rfl rfl fun _ => rfl
  | act dt =>
    refine h.quiet rfl rfl ?_ fun _ => rfl
    simp only [setStage, Stage.act, Option.map_map]
    rfl
  | setAssets assets => exact h.quiet rfl rfl rfl fun _ => by rw [scope_setAssets]
  | _ => exact h.quiet rfl rfl rfl fun _ => rfl

/-- **The lives of scenes.** In an orderly run of an engine that has no scene
yet, the calls of hooks, with the exit of the scene on the stage if that is
still to come, are a row of blocks, one for each scene that was rendered and
in that order. The calls are those of the hooks that were run: a record that
hooks keep of themselves grows by these and no others. A scene is shown for
every render that finds one (`shows_renderTrace`). -/
theorem exists_blocks_run (hnone : s.engine.stage.scene = none) {commands : List (Command κ)}
    (horderly : ∀ e ∈ s.trace cast commands, e.Orderly cast) :
    (∃ blocks : List (Show × List (Told κ)),
      blocks.map Prod.fst = Trace.shows (s.trace cast commands) ∧
        (∀ block ∈ blocks, (s.run cast commands).scope.company.IsBlock block.1 block.2) ∧
        Trace.calls (s.trace cast commands) ++ (s.run cast commands).due =
          blocks.flatMap Prod.snd) ∧
      ∀ record : γ → List (Told κ), (∀ e ∈ s.trace cast commands, e.Records cast record) →
        record (s.run cast commands).world.host =
          record s.world.host ++ Trace.calls (s.trace cast commands) := by
  have hmoves := moves_run cast s commands
  refine ⟨Bracketed.exists_blocks ?_, fun record hrecords => record_run hrecords⟩
  -- by induction on the moves of the run, each of which keeps the calls bracketed
  generalize s.run cast commands = s', s.trace cast commands = t at horderly hmoves
  induction hmoves with
  | refl => exact .bare hnone rfl rfl
  | snoc _ hmove ih =>
    exact (ih fun e he => horderly e (List.mem_append_left _ he)).move hmove
      fun e he => horderly e (List.mem_append_right _ he)

/-- An engine with two scenes, a controller for one of them, and a root
controller, in the hands of a host. -/
def inn (host : γ) : Session 1 Bool SkinAssets γ :=
  (solo {} (MemorySource.load [("index.xml",
    "<stage><scene name='hall' controller='porter'/><scene name='yard'/></stage>")])
      {} host).setScope { root := some false, controllers := [("porter", true)] }

/-- From the hall to the yard and back: the porter is told of the entry, a frame,
the exit, and the entry again, and that is what the host finds written down. -/
theorem exists_blocks_run_inn :
    let cast (controller : Bool) := Controller.noted controller {}
    let commands := [.loadStage, .update 0, .render "yard", .render "hall"]
    let trace := (inn []).trace cast commands
    let after := (inn []).run cast commands
    (inn ([] : List (Told Bool))).engine.stage.scene = none ∧ (∀ e ∈ trace, e.Orderly cast) ∧
      (∀ e ∈ trace, e.Records cast fun held => held) ∧
      (Trace.shows trace).map Show.name = ["hall", "yard", "hall"] ∧
      after.world.host.map Told.controller = [true, true, true, true] ∧
      after.world.host = Trace.calls trace ∧
      ∃ blocks : List (Show × List (Told Bool)), blocks.map Prod.fst = Trace.shows trace ∧
        (∀ block ∈ blocks, after.scope.company.IsBlock block.1 block.2) ∧
        Trace.calls trace ++ after.due = blocks.flatMap Prod.snd := by
  intro cast commands trace after
  have hdiscreet : (inn ([] : List (Told Bool))).Discreet := by
    refine ⟨List.forall_mem_singleton.2 ⟨List.forall_mem_nil _, List.forall_mem_nil _⟩, ?_⟩
    exact List.forall_mem_singleton.2 Library.discreet_builtin
  have hwork : ∀ command ∈ commands, command.IsWork := by simp [commands, Command.IsWork]
  have horderly : ∀ e ∈ trace, e.Orderly cast :=
    orderly_trace (fun _ => Controller.discreet_idle.noted _) hdiscreet hwork
  have hrecords : ∀ e ∈ trace, e.Records cast fun held => held := by decide +kernel
  obtain ⟨hblocks, hrecord⟩ := exists_blocks_run rfl horderly
  have hdiary : after.world.host = Trace.calls trace := hrecord (fun held => held) hrecords
  exact ⟨rfl, horderly, hrecords, by decide +kernel, by decide +kernel, hdiary, hblocks⟩

end Session

end SceneScript
