import SceneScript.Proofs.Engine.Lifecycle
import SceneScript.Proofs.Engine.Since
/-!
# Engine — who is in charge

An engine knows the controller of a scene in two ways. It is in charge: the
scope has held it since the scene was built, and it is told that the scene
enters. And it is registered under the name that the scene declares: it is
looked up there for every frame, every action and the exit. A session is
`InStep` when both ways lead to the same controller, or neither leads to one.

Where hooks and directives keep their hands off the controllers, the one in
charge is the one that was registered when the scene was built, and the other
is the one registered now. So the two are in step unless the host has since
registered another controller under that very name (`inStep_run_iff`).
-/

namespace SceneScript

variable {n : Nat} {κ α γ : Type}

/-! ## Hands off -/

/-- The controllers a scene can have to do with: those registered under a name,
and the one in charge. -/
def Scope.roster (scope : Scope κ) : Named κ × Option (String × κ) :=
  (scope.controllers, scope.current)

namespace Happening

/-- Hooks, directives and libraries keep their hands off the controllers. The
host may register what it likes. -/
def HandsOff (cast : κ → Controller κ α γ) : Happening n κ α γ → Prop
  | told controller occasion cue =>
    ((cast controller).hook occasion cue).scope.roster = cue.scope.roster
  | built _ _ _ before after => after.scope.roster = before.scope.roster
  | opened _ before after => after.scope.roster = before.scope.roster
  | _ => True

instance [DecidableEq κ] (cast : κ → Controller κ α γ) :
    (e : Happening n κ α γ) → Decidable (e.HandsOff cast)
  | told controller occasion cue => inferInstanceAs
    (Decidable (((cast controller).hook occasion cue).scope.roster = cue.scope.roster))
  | built _ _ _ before after => inferInstanceAs
    (Decidable (after.scope.roster = before.scope.roster))
  | opened _ before after => inferInstanceAs
    (Decidable (after.scope.roster = before.scope.roster))
  | asked _ | shown _ | registered _ _ | disposed _ => inferInstanceAs (Decidable True)

end Happening

namespace Session

variable {cast : κ → Controller κ α γ} {s s' q : Session n κ α γ} {t u later : Trace n κ α γ}
  {scene scene' : Scene} {name : String} {definition : Markup.Node}

/-! ## In step -/

/-- The controller in charge is the one that frames, actions and the exit of
the scene on the stage go to, and there is none in charge where there is no
such. -/
def InStep (s : Session n κ α γ) : Prop :=
  s.scope.current.map Prod.snd = s.sceneController?

/-- How the controllers stand to a scene that was built in a session `q` from a
definition, whatever has happened since. -/
structure Charged (cast : κ → Controller κ α γ) (q : Session n κ α γ) (definition : Markup.Node)
    (later : Trace n κ α γ) (s : Session n κ α γ) (scene : Scene) : Prop where
  current : s.scope.current = (definition.attr? "controller").bind fun name =>
    (q.scope.controller? name).map (name, ·)
  controllers : (∀ e ∈ later, e.IsWork) → s.scope.controllers = q.scope.controllers
  declares : (∀ e ∈ later, e.Keeps cast Scene.controller) →
    scene.controller = definition.attr? "controller"

/-- What puts nobody in charge leaves the controllers as they stand. -/
theorem Charged.quiet (h : Charged cast q definition later s scene)
    (hcurrent : s'.scope.current = s.scope.current)
    (hcontrollers : (∀ e ∈ u, e.IsWork) → s'.scope.controllers = s.scope.controllers)
    (hdeclares : (∀ e ∈ u, e.Keeps cast Scene.controller) → scene'.controller = scene.controller) :
    Charged cast q definition (later ++ u) s' scene' where
  current := hcurrent.trans h.current
  controllers hwork := by
    rw [List.forall_mem_append] at hwork
    exact (hcontrollers hwork.2).trans (h.controllers hwork.1)
  declares hkeeps := by
    rw [List.forall_mem_append] at hkeeps
    exact (hdeclares hkeeps.2).trans (h.declares hkeeps.1)

/-- **In step means that the name leads where it led.** -/
theorem Charged.inStep_iff (h : Charged cast q definition later s scene)
    (hscene : s.engine.stage.scene = some scene) :
    s.InStep ↔ scene.controller.bind s.scope.controller? =
      (definition.attr? "controller").bind q.scope.controller? := by
  have hcharge : s.scope.current.map Prod.snd =
      (definition.attr? "controller").bind q.scope.controller? := by
    rw [h.current, Option.map_bind]
    simp [Function.comp_def]
  have hcontroller : s.sceneController? = scene.controller.bind s.scope.controller? := by
    rw [sceneController?, hscene, Option.bind_some]
  rw [InStep, hcharge, hcontroller, eq_comm]

/-- It leads there as long as the engine is left to its work. -/
theorem Charged.inStep (h : Charged cast q definition later s scene)
    (hscene : s.engine.stage.scene = some scene) (hwork : ∀ e ∈ later, e.IsWork)
    (hkeeps : ∀ e ∈ later, e.Keeps cast Scene.controller) : s.InStep := by
  have hregistered : s.scope.controller? = q.scope.controller? :=
    congrArg Named.get? (h.controllers hwork)
  rw [h.inStep_iff hscene, h.declares hkeeps, hregistered]

/-! ## From the switch on -/

/-- Directives that keep their hands off leave the controller in charge that
the scene declares. -/
theorem charged_assemble
    (h : (s.building name definition).HandsOff cast) :
    Charged cast s definition [] (s.assemble name definition).2
      (s.assemble name definition).1 where
  current := (congrArg Prod.snd h).trans (by rw [scope_rebind]; rfl)
  controllers _ := (congrArg Prod.fst h).trans (by rw [scope_rebind]; rfl)
  declares _ := rfl

/-- An entry keeps the controllers where the enter hook does. -/
theorem roster_enter (h : ∀ e ∈ s.enterTrace scene, e.HandsOff cast) :
    (s.enter cast scene).2.scope.roster = s.scope.roster := by
  rcases enter_cases cast s scene with ⟨-, hentered⟩ | ⟨controller, htrace, hentered⟩
  · rw [hentered]
  · rw [htrace, List.forall_mem_singleton] at h
    rw [hentered]
    exact (congrArg Scope.roster (scope_resume _ _)).trans h

/-- Where hands have been kept off since a scene was built, the controllers
stand to it as they should. -/
def Kept (cast : κ → Controller κ α γ) : Tale n κ α γ := fun q name definition later s scene =>
  (q.building name definition).HandsOff cast → (∀ e ∈ later, e.HandsOff cast) →
    Charged cast q definition later s scene

/-- **A scene comes onto the stage with its controller in charge**, whoever was
in charge before. -/
theorem kept_raise (s : Session n κ α γ) (name : String) (definition : Markup.Node) (scene : Scene)
    (hscene : (s.raise cast name definition).engine.stage.scene = some scene) :
    Kept cast s name definition (s.entryTrace cast name definition)
      (s.raise cast name definition) scene := by
  intro hbuilt hentry
  obtain ⟨henter, -⟩ := List.forall_mem_append.1 hentry
  have hroster := roster_enter (s := (s.assemble name definition).2.setPhase .built) henter
  have hentered : Charged cast s definition
      ((s.assemble name definition).2.enterTrace (s.assemble name definition).1)
      (s.entered cast name definition).2 (s.entered cast name definition).1 :=
    (charged_assemble hbuilt).quiet (congrArg Prod.snd hroster)
      (fun _ => congrArg Prod.fst hroster)
      (view_enter (s := (s.assemble name definition).2.setPhase .built))
  cases hscene
  exact hentered.quiet rfl (fun _ => rfl) fun _ => rfl

variable [AssetService α]

/-- A move that builds nothing puts nobody in charge, where hands are kept off,
and only registering changes who is registered. -/
theorem Move.roster (hmove : Move cast s u s') (hbuilds : ∀ e ∈ u, ¬ e.Builds)
    (hhands : ∀ e ∈ u, e.HandsOff cast) : s'.scope.current = s.scope.current ∧
      ((∀ e ∈ u, e.IsWork) → s'.scope.controllers = s.scope.controllers) := by
  -- a roster that is kept as a whole is kept in both its parts
  have hboth (hroster : s'.scope.roster = s.scope.roster) :
      s'.scope.current = s.scope.current ∧
        ((∀ e ∈ u, e.IsWork) → s'.scope.controllers = s.scope.controllers) :=
    ⟨congrArg Prod.snd hroster, fun _ => congrArg Prod.fst hroster⟩
  cases hmove with
  | openDocument document => exact hboth (hhands _ (List.mem_singleton_self _))
  | register name controller =>
    exact ⟨by rw [scope_setScope]; rfl,
      fun hwork => (hwork _ (List.mem_singleton_self _)).elim⟩
  | tell hscene hanswers =>
    exact hboth ((congrArg Scope.roster (scope_resume _ _)).trans
      (hhands _ (List.mem_singleton_self _)))
  | switchScene hfound =>
    exact (hbuilds _ (List.mem_append_right _ List.mem_cons_self) trivial).elim
  | click path event hscene =>
    unfold clicked
    split <;> exact ⟨rfl, fun _ => rfl⟩
  | setAssets assets => exact hboth (by rw [scope_setAssets])
  | dispose => exact hboth (by rw [Session.dispose, scope_setAssets]; rfl)
  | _ => exact ⟨rfl, fun _ => rfl⟩

/-- **Every move keeps the controllers**, where hands are kept off. -/
theorem Move.retains_kept (hmove : Move cast s u s') (hbuilds : ∀ e ∈ u, ¬ e.Builds) :
    s.Retains (Kept cast) u s' := by
  intro scene' hscene'
  obtain ⟨scene, hscene, hstays⟩ := hmove.stays hbuilds hscene'
  refine ⟨scene, hscene, fun q name definition later hkept hbuilt hall => ?_⟩
  obtain ⟨hlater, hu⟩ := List.forall_mem_append.1 hall
  obtain ⟨hcurrent, hcontrollers⟩ := hmove.roster hbuilds hu
  exact (hkept hbuilt hlater).quiet hcurrent hcontrollers
    (hstays.view (fun _ _ => rfl) fun _ _ => rfl)

/-- **The controller in charge is the one that the scene's name leads to**,
unless the name has been registered again. In any run in which hooks,
directives and libraries keep their hands off the controllers, the scene on the
stage was built in some session from the definition that the document in use
had for its name. The two ways of knowing its controller are in step exactly
when the name that the scene declares leads to what the name in the definition
led to then. Where no hook has put in a scene that declares another, the two
names are one, and the controllers are in step at least until the host registers
some. -/
theorem inStep_run_iff (hnone : s.engine.stage.scene = none) {commands : List (Command κ)}
    (hhands : ∀ e ∈ s.trace cast commands, e.HandsOff cast)
    (hscene : (s.run cast commands).engine.stage.scene = some scene) :
    ∃ q name definition later, (s.trace cast commands).LastBuilt q name definition later ∧
      ((s.run cast commands).InStep ↔
        scene.controller.bind (s.run cast commands).scope.controller? =
          (definition.attr? "controller").bind q.scope.controller?) ∧
      ((∀ e ∈ later, e.Keeps cast Scene.controller) →
        scene.controller = definition.attr? "controller" ∧
          ((∀ e ∈ later, e.IsWork) → (s.run cast commands).InStep)) := by
  -- on the empty stage there is nothing to know
  have hbare : s.Since (Kept cast) [] := fun scene hscene => by cases hnone.symm.trans hscene
  have hsince : (s.run cast commands).Since (Kept cast) (s.trace cast commands) :=
    hbare.moves kept_raise Move.retains_kept (moves_run cast s commands)
  obtain ⟨q, name, definition, later, hlast, hkept⟩ := hsince scene hscene
  obtain ⟨earlier, htrace⟩ := hlast.built
  rw [htrace, List.forall_mem_append, List.forall_mem_cons] at hhands
  have hcharged := hkept hhands.2.1 hhands.2.2
  refine ⟨q, name, definition, later, hlast, hcharged.inStep_iff hscene, ?_⟩
  intro hkeeps
  exact ⟨hcharged.declares hkeeps, fun hwork => hcharged.inStep hscene hwork hkeeps⟩

/-- The inn is left for its yard, and while nobody is in the hall it gets
another porter. When the hall is rendered again, the new one is in charge. -/
theorem inStep_run_iff_inn :
    let commands := [.loadStage, .render "yard", .register "porter" false, .render "hall"]
    (inn ()).engine.stage.scene = none ∧
      (∀ e ∈ (inn ()).trace (fun _ => {}) commands, e.HandsOff fun _ => {}) ∧
      ∃ scene q name definition later,
        ((inn ()).run (fun _ => {}) commands).engine.stage.scene = some scene ∧
        ((inn ()).trace (fun _ => {}) commands).LastBuilt q name definition later ∧
        (((inn ()).run (fun _ => {}) commands).InStep ↔
          scene.controller.bind ((inn ()).run (fun _ => {}) commands).scope.controller? =
            (definition.attr? "controller").bind q.scope.controller?) ∧
        ((∀ e ∈ later, e.Keeps (fun _ => {}) Scene.controller) →
          scene.controller = definition.attr? "controller" ∧
            ((∀ e ∈ later, e.IsWork) → ((inn ()).run (fun _ => {}) commands).InStep)) := by
  intro commands
  have hhands : ∀ e ∈ (inn ()).trace (fun _ => {}) commands, e.HandsOff fun _ => {} := by
    decide +kernel
  have hstaged : ((inn ()).run (fun _ => {}) commands).engine.stage.scene.isSome = true := by
    decide +kernel
  obtain ⟨scene, hscene⟩ := Option.isSome_iff_exists.1 hstaged
  obtain ⟨q, name, definition, later, hrest⟩ := inStep_run_iff rfl hhands hscene
  exact ⟨rfl, hhands, scene, q, name, definition, later, hscene, hrest⟩

/-- **Registering parts the two.** While the hall is shown, the inn gets another
porter: the old one stays in charge, and the new one is told of the frames. -/
theorem not_inStep_register :
    let commands := [.loadStage, .register "porter" false]
    (∀ e ∈ (inn ()).trace (fun _ => {}) commands, e.HandsOff fun _ => {}) ∧
      ((inn ()).run (fun _ => {}) commands).engine.stage.scene.isSome ∧
      ((inn ()).run (fun _ => {}) commands).scope.current = some ("porter", true) ∧
      ((inn ()).run (fun _ => {}) commands).sceneController? = some false ∧
      ¬ ((inn ()).run (fun _ => {}) commands).InStep := by
  intro commands
  have hcurrent : ((inn ()).run (fun _ => {}) commands).scope.current = some ("porter", true) := by
    decide +kernel
  have hcontroller : ((inn ()).run (fun _ => {}) commands).sceneController? = some false := by
    decide +kernel
  refine ⟨by decide +kernel, by decide +kernel, hcurrent, hcontroller, fun hstep => ?_⟩
  rw [InStep, hcurrent, hcontroller] at hstep
  cases hstep

end Session

end SceneScript
