import SceneScript.Proofs.Engine.Trace
import SceneScript.Proofs.Registry.Frame
/-!
# Engine — hands off the controllers

What holds of the controllers of an engine over a whole run holds only where
nobody meddles with them. A happening is `Happening.Orderly` when hooks and
directives leave the registered controllers alone and put none in charge, when
none is registered while a scene is on the stage, and when a scene stays on the
stage under its name until the next one comes. What a switch does to the
controllers is then what the engine itself does, which is to put the one in
charge that the new scene declares.

That a run is orderly can be read off its parts: it is enough that every hook,
every directive and every library is discreet, and that the host only has the
engine work (`orderly_trace`). The built-in library is discreet.
-/

namespace SceneScript

variable {n : Nat} {κ α γ : Type}

/-! ## The controllers of a scope -/

/-- The controllers an engine has to do with: those registered under a name,
and the root controller. -/
structure Company (κ : Type) where
  controllers : Named κ
  root : Option κ

/-- The controllers of a scope, whoever is in charge. -/
def Scope.company (scope : Scope κ) : Company κ :=
  ⟨scope.controllers, scope.root⟩

/-- The controller that a scene declares, if it is registered. -/
def Company.controller? (company : Company κ) (about : Show) : Option κ :=
  about.controller.bind company.controllers.get?

/-! ## Orderly happenings -/

/-- Hands are kept off the controllers: hooks and directives leave them alone
and put none in charge, none is registered while a scene is on the stage, and
a scene stays there under its name until the next one comes. -/
def Happening.Orderly (cast : κ → Controller κ α γ) : Happening n κ α γ → Prop
  | .told controller occasion cue =>
    ((cast controller).hook occasion cue).scope.company = cue.scope.company ∧
      ((cast controller).hook occasion cue).scene.show = cue.scene.show
  | .built _ _ _ before after =>
    after.scope.company = before.scope.company ∧ after.scope.current = before.scope.current
  | .opened _ before after =>
    before.engine.stage.scene.isSome → after.scope.company = before.scope.company
  | .registered before after =>
    before.engine.stage.scene.isSome → after.scope.company = before.scope.company
  | .disposed stage => stage.scene = none
  | _ => True

/-! ## Discretion -/

/-- A controller that leaves the controllers alone, and its scene its name. -/
def Controller.Discreet (controller : Controller κ α γ) : Prop :=
  ∀ occasion cue, (controller.hook occasion cue).scope.company = cue.scope.company ∧
    (controller.hook occasion cue).scene.show = cue.scene.show

/-- A controller that does nothing is discreet. -/
theorem Controller.discreet_idle : ({} : Controller κ α γ).Discreet := fun occasion _ => by
  cases occasion <;> exact ⟨rfl, rfl⟩

/-- Writing its calls down makes none indiscreet. -/
theorem Controller.Discreet.noted {hooks : Controller κ α (List (Told κ))} (h : hooks.Discreet)
    (controller : κ) : (Controller.noted controller hooks).Discreet := fun occasion cue => by
  cases occasion <;> exact h _ cue

/-- The controllers of an engine, and the one in charge. -/
def World.charge (i : Fin n) (world : World n κ α γ) : Company κ × Option (String × κ) :=
  ((world.office i).scope.company, (world.office i).scope.current)

/-- A library that leaves the controllers alone, and so do its directives. -/
def Library.Discreet (library : Library n κ α γ) : Prop :=
  ∀ i registry world, registry.Leaves (World.charge i) →
    (library.populate i registry world).1.Leaves (World.charge i) ∧
      (library.populate i registry world).2.charge i = world.charge i

/-- The built-in library is discreet. -/
theorem Library.discreet_builtin [AssetService α] :
    (Library.builtin : Library n κ α γ).Discreet := fun _ _ _ h =>
  ⟨h.add _ (Builtin.leaves_elements _) Builtin.leaves_attributes, rfl⟩

namespace Session

variable {cast : κ → Controller κ α γ} {s s' : Session n κ α γ} {t u : Trace n κ α γ}

@[simp] theorem scope_resume (s : Session n κ α γ) (cue : Cue κ α γ) :
    (s.resume cue).scope = cue.scope := by
  simp [Session.scope, resume]

/-- The controller of the scene on the stage is the one it declares. -/
theorem sceneController?_of_some {scene : Scene} (h : s.engine.stage.scene = some scene) :
    s.sceneController? = s.scope.company.controller? scene.show := by
  rw [sceneController?, h]
  rfl

/-- A departure keeps the controllers where the exit hook does. -/
theorem company_leave (cast : κ → Controller κ α γ) (h : ∀ e ∈ s.leaveTrace, e.Orderly cast) :
    (s.leave cast).scope.company = s.scope.company := by
  rcases leave_cases cast s with ⟨-, hleft⟩ | ⟨scene, controller, hscene, hcontroller, hleft⟩
  · rw [hleft]
    rfl
  · rw [leaveTrace_of_some hscene hcontroller] at h
    rw [hleft]
    exact (congrArg Scope.company (scope_resume _ _)).trans (h _ (List.mem_singleton_self _)).1

/-- An entry keeps the controllers and the scene where the enter hook does. -/
theorem company_enter (cast : κ → Controller κ α γ) (s : Session n κ α γ) (scene : Scene)
    (h : ∀ e ∈ s.enterTrace scene, e.Orderly cast) :
    (s.enter cast scene).2.scope.company = s.scope.company ∧
      (s.enter cast scene).1.show = scene.show := by
  unfold enter enterTrace at *
  cases hcurrent : s.scope.current with
  | none => exact ⟨rfl, rfl⟩
  | some entry =>
    rw [hcurrent] at h
    have htold := h _ (List.mem_singleton_self _)
    exact ⟨(congrArg Scope.company (scope_resume _ _)).trans htold.1, htold.2⟩

/-- Directives that keep the controllers leave the one in charge that the scene
declares. -/
theorem company_assemble {name : String} {definition : Markup.Node}
    (h : (s.building name definition).Orderly cast) :
    (s.assemble name definition).2.scope.company = s.scope.company ∧
      (s.assemble name definition).2.scope.current =
        (definition.attr? "controller").bind fun key =>
          ((s.assemble name definition).2.scope.controller? key).map (key, ·) := by
  obtain ⟨hcompany, hcurrent⟩ := h
  have hkept : (s.assemble name definition).2.scope.controllers = s.scope.controllers :=
    (congrArg Company.controllers hcompany).trans (by rw [scope_rebind]; rfl)
  refine ⟨hcompany.trans (by rw [scope_rebind]; rfl), hcurrent.trans ?_⟩
  simp only [scope_rebind, Scope.setCurrent, Scope.controller?, hkept]

/-! ## Discreet sessions -/

/-- The directives and the libraries of a session leave its controllers
alone. -/
structure Discreet (s : Session n κ α γ) : Prop where
  registry : s.registry.Leaves (World.charge s.id)
  libraries : ∀ library ∈ s.engine.libraries, library.Discreet

/-- Loading discreet libraries, one after the other. -/
theorem leaves_foldl_loadLibrary {libraries : List (Library n κ α γ)}
    (h : ∀ library ∈ libraries, library.Discreet) (hs : s.registry.Leaves (World.charge s.id)) :
    (libraries.foldl loadLibrary s).registry.Leaves (World.charge s.id) ∧
      (libraries.foldl loadLibrary s).world.charge s.id = s.world.charge s.id := by
  induction libraries generalizing s with
  | nil => exact ⟨hs, rfl⟩
  | cons library rest ih =>
    obtain ⟨hlibrary, hrest⟩ := List.forall_mem_cons.1 h
    have hone : (s.loadLibrary library).registry.Leaves (World.charge s.id) ∧
        (s.loadLibrary library).world.charge s.id = s.world.charge s.id ∧
        (s.loadLibrary library).id = s.id := by
      unfold loadLibrary
      split
      · -- it was loaded before
        exact ⟨hs, rfl, rfl⟩
      · obtain ⟨hpopulated, hcharge⟩ := hlibrary s.id s.registry s.world hs
        exact ⟨hpopulated.create _, hcharge, rfl⟩
    obtain ⟨hregistry, hcharge, hid⟩ := hone
    rw [← hid] at hregistry hcharge
    obtain ⟨hfolded, hkept⟩ := ih hrest hregistry
    rw [List.foldl_cons, ← hid]
    exact ⟨hfolded, hkept.trans hcharge⟩

theorem Discreet.leave (h : s.Discreet) : (s.leave cast).Discreet := by
  obtain ⟨hregistry, hid⟩ := registry_leave cast s
  obtain ⟨pending, hengine⟩ := exists_engine_leave cast s
  refine ⟨?_, ?_⟩
  · rw [hregistry, hid]
    exact h.registry
  · rw [hengine]
    exact h.libraries

theorem Discreet.raise (h : s.Discreet) (name : String) (definition : Markup.Node) :
    (s.raise cast name definition).Discreet := by
  obtain ⟨hregistry, hid⟩ := registry_raise cast s name definition
  obtain ⟨pending, hengine⟩ := exists_engine_raise cast s name definition
  refine ⟨?_, ?_⟩
  · rw [hregistry, hid]
    exact h.registry
  · rw [hengine]
    exact h.libraries

/-- Discreet directives build in order. -/
theorem Discreet.orderly_built (h : s.Discreet) (name : String) (definition : Markup.Node) :
    (s.building name definition).Orderly cast := by
  have hcharge : (s.assemble name definition).2.world.charge s.id =
      (s.rebind (definition.attr? "controller")).world.charge s.id :=
    h.registry.resolveChildren s.engine.imports definition _
  exact ⟨congrArg Prod.fst hcharge, congrArg Prod.snd hcharge⟩

/-- Discreet controllers and directives switch in order. -/
theorem Discreet.orderly_switchTrace (h : s.Discreet) (hcast : ∀ k, (cast k).Discreet)
    (name : String) (definition : Markup.Node) :
    ∀ e ∈ s.switchTrace cast name definition, e.Orderly cast := by
  have hleave : ∀ e ∈ s.leaveTrace, e.Orderly cast := by
    unfold leaveTrace
    split
    · exact List.forall_mem_singleton.2 (hcast _ .exit _)
    · exact List.forall_mem_nil _
  have henter (r : Session n κ α γ) (scene : Scene) : ∀ e ∈ r.enterTrace scene, e.Orderly cast := by
    unfold enterTrace
    split
    · exact List.forall_mem_singleton.2 (hcast _ .enter _)
    · exact List.forall_mem_nil _
  simp only [switchTrace, raiseTrace, List.forall_mem_append, List.forall_mem_cons]
  exact ⟨hleave, h.leave.orderly_built name definition, henter _ _, trivial, List.forall_mem_nil _⟩

variable [AssetService α]

/-- **A move of a discreet session is orderly**, where the engine is at work,
and leaves the session discreet. -/
theorem Discreet.move (h : s.Discreet) (hcast : ∀ k, (cast k).Discreet)
    (hmove : Move cast s t s') : s'.Discreet ∧ ∀ e ∈ t, e.IsWork → e.Orderly cast := by
  have hquiet : ∀ e ∈ ([] : Trace n κ α γ), e.IsWork → e.Orderly cast := List.forall_mem_nil _
  cases hmove with
  | openDocument document =>
    obtain ⟨hregistry, hcharge⟩ := leaves_foldl_loadLibrary h.libraries h.registry
    obtain ⟨imports, hengine⟩ := exists_engine_openDocument s document
    have hid : (s.openDocument document).id = s.id := by
      rw [openDocument, installDocument, loadLibraries_eq]
    refine ⟨⟨?_, ?_⟩, List.forall_mem_singleton.2 fun _ _ => ?_⟩
    · rw [hid]
      exact hregistry
    · rw [hengine]
      exact h.libraries
    · rw [Session.scope, Session.scope, loadLibraries_eq]
      exact congrArg Prod.fst hcharge
  | @switchScene _ name definition _ =>
    rw [switchScene_eq]
    exact ⟨h.leave.raise name definition,
      fun e he _ => h.orderly_switchTrace hcast name definition e he⟩
  | tell hscene _ => exact ⟨⟨h.registry, h.libraries⟩,
      List.forall_mem_singleton.2 fun _ => hcast _ _ _⟩
  | click path event hscene =>
    unfold clicked
    split <;> exact ⟨⟨h.registry, h.libraries⟩, hquiet⟩
  | ask name => exact ⟨h, List.forall_mem_singleton.2 fun _ => trivial⟩
  | register name controller =>
    exact ⟨⟨h.registry, h.libraries⟩, List.forall_mem_singleton.2 False.elim⟩
  | dispose => exact ⟨⟨h.registry, h.libraries⟩, List.forall_mem_singleton.2 False.elim⟩
  | _ => exact ⟨⟨h.registry, h.libraries⟩, hquiet⟩

/-- **Discretion makes a run orderly.** Where hooks, directives and libraries
leave the controllers alone, whatever an engine is asked to do at work is done
in order. -/
theorem orderly_trace (hcast : ∀ k, (cast k).Discreet) (h : s.Discreet)
    {commands : List (Command κ)} (hcommands : ∀ command ∈ commands, command.IsWork) :
    ∀ e ∈ s.trace cast commands, e.Orderly cast := by
  have hmoves := moves_run cast s commands
  have hwork := isWork_trace cast s hcommands
  generalize s.run cast commands = s', s.trace cast commands = t at hmoves hwork
  -- registering and disposing are moves as well, so the moves say less than what is wanted;
  -- at work neither happens
  suffices hall : s'.Discreet ∧ ∀ e ∈ t, e.IsWork → e.Orderly cast from
    fun e he => hall.2 e he (hwork e he)
  clear hwork
  induction hmoves with
  | refl => exact ⟨h, List.forall_mem_nil _⟩
  | snoc _ hmove ih =>
    obtain ⟨hdiscreet, horderly⟩ := ih.1.move hcast hmove
    exact ⟨hdiscreet, List.forall_mem_append.2 ⟨ih.2, horderly⟩⟩

end Session

end SceneScript
