import SceneScript.Proofs.Engine.Libraries
/-!
# Engine — what libraries keep, runs keep

A registry changes where libraries are put in, and nowhere else. So what is said
of a registry holds on as long as every library keeps it that an engine has:
through the moves of one engine, with the moments in them at which a scene is
built (`keeps_moves`), and through the tasks of several engines that share the
registry (`Theatre.keeps_run`).
-/

namespace SceneScript

variable {n : Nat} {κ α γ : Type} {P : Registry (World n κ α γ) → Prop}

/-- Where the built-in namespace stands. -/
def Library.builtinPath : List String :=
  segments builtinName

/-- A library that keeps what is said of a registry when an engine puts it in. -/
def Library.Keeps (i : Fin n) (P : Registry (World n κ α γ) → Prop)
    (library : Library n κ α γ) : Prop :=
  ∀ registry world, P registry → P ((library.populate i registry world).1.create library.name)

namespace Session

theorem keeps_loadLibraries {s : Session n κ α γ}
    (hkeeps : ∀ library ∈ s.engine.libraries, library.Keeps s.id P) (h : P s.registry) :
    P s.loadLibraries.registry := by
  unfold loadLibraries
  generalize s.engine.libraries = libraries at hkeeps
  induction libraries generalizing s with
  | nil => exact h
  | cons library rest ih =>
    obtain ⟨hlibrary, hrest⟩ := List.forall_mem_cons.1 hkeeps
    rw [List.foldl_cons, loadLibrary_eq]
    split
    · exact ih h hrest
    · exact ih (s := s.put library) (hlibrary _ _ h) hrest

/-- A session after another of the same engine, of whose registry the same is
said. -/
structure Stable (P : Registry (World n κ α γ) → Prop) (s s' : Session n κ α γ) : Prop where
  id : s'.id = s.id
  libraries : s'.engine.libraries = s.engine.libraries
  registry : P s'.registry

/-- Whenever a scene is built in a trace, it is by the engine, and the same is
said of its registry. -/
def Built (P : Registry (World n κ α γ) → Prop) (i : Fin n) (trace : Trace n κ α γ) : Prop :=
  ∀ name definition scene before after, .built name definition scene before after ∈ trace →
    before.id = i ∧ P before.registry

variable [AssetService α] {cast : κ → Controller κ α γ} {s s' : Session n κ α γ}
  {t : Trace n κ α γ}

omit [AssetService α] in
/-- A switch builds once, at the registry as it is. -/
theorem built_switchTrace (cast : κ → Controller κ α γ) (s : Session n κ α γ) (name : String)
    (definition : Markup.Node) (h : P s.registry) :
    Built P s.id (s.switchTrace cast name definition) := by
  obtain ⟨hregistry, hid⟩ := registry_leave cast s
  intro _ _ _ before after hmem
  have hbuilding := eq_building_of_mem_switchTrace hmem trivial
  rw [building, Happening.built.injEq] at hbuilding
  obtain ⟨-, -, -, rfl, -⟩ := hbuilding
  exact ⟨hid, hregistry.symm ▸ h⟩

/-- **What every library keeps, every move keeps.** -/
theorem keeps_move (hmove : Move cast s t s')
    (hkeeps : ∀ library ∈ s.engine.libraries, library.Keeps s.id P) (h : P s.registry) :
    s.Stable P s' ∧ Built P s.id t := by
  have hlibraries : s'.engine.libraries = s.engine.libraries := hmove.given.2
  cases hmove with
  | openDocument document =>
    exact ⟨⟨id_loadLibraries s, hlibraries, keeps_loadLibraries hkeeps h⟩, by simp [Built]⟩
  | @switchScene _ name definition _ =>
    refine ⟨⟨?_, hlibraries, ?_⟩, built_switchTrace cast s name definition h⟩
    · rw [switchScene_eq, (registry_raise cast _ name definition).2, (registry_leave cast s).2]
    · rwa [registry_switchScene]
  | click path event hscene =>
    unfold clicked
    split <;> exact ⟨⟨rfl, rfl, h⟩, by simp [Built]⟩
  | _ => exact ⟨⟨rfl, rfl, h⟩, by simp [Built]⟩

/-- **So does a row of moves**, with every moment in it at which a scene is
built. -/
theorem keeps_moves (hmoves : Moves cast s t s')
    (hkeeps : ∀ library ∈ s.engine.libraries, library.Keeps s.id P) (h : P s.registry) :
    s.Stable P s' ∧ Built P s.id t := by
  induction hmoves with
  | refl => exact ⟨⟨rfl, rfl, h⟩, by simp [Built]⟩
  | @snoc r s' t u _ hmove ih =>
    obtain ⟨hkept, hbuilt⟩ := ih
    obtain ⟨hlast, hlater⟩ := keeps_move hmove (hkept.id ▸ hkept.libraries ▸ hkeeps) hkept.registry
    refine ⟨⟨hlast.id.trans hkept.id, hlast.libraries.trans hkept.libraries, hlast.registry⟩, ?_⟩
    intro name definition scene before after hmem
    exact (List.mem_append.1 hmem).elim (hbuilt name definition scene before after)
      (hkept.id ▸ hlater name definition scene before after)

/-- So does a task. -/
theorem keeps_carryOut (cast : κ → Controller κ α γ) (task : Task n κ α γ)
    (hkeeps : ∀ library ∈ s.engine.libraries, library.Keeps s.id P) (h : P s.registry) :
    P (s.carryOut cast task).registry := by
  cases task with
  | loadLibraries => exact keeps_loadLibraries hkeeps h
  | register library => exact h
  | command command => exact (keeps_moves (moves_perform cast s command) hkeeps h).1.registry

end Session

/-! ## Several engines at one registry -/

/-- A task that registers no library but one of a kind. -/
def Task.Of (kind : Library n κ α γ → Prop) : Task n κ α γ → Prop
  | .register library => kind library
  | _ => True

namespace Theatre

/-- All libraries that its engines have are of a kind. -/
def Holds (theatre : Theatre n κ α γ) (kind : Library n κ α γ → Prop) : Prop :=
  ∀ i, ∀ library ∈ (theatre.engines.get i).libraries, kind library

variable [AssetService α] {kind : Library n κ α γ → Prop} {theatre : Theatre n κ α γ}

/-- An engine has the libraries that it had, and those it is given. -/
theorem Holds.carryOut (cast : κ → Controller κ α γ) (h : theatre.Holds kind) (i : Fin n)
    {task : Task n κ α γ} (htask : task.Of kind) : (theatre.carryOut cast i task).Holds kind := by
  have hengine : ∀ library ∈ ((theatre.session i).carryOut cast task).engine.libraries,
      kind library := by
    cases task with
    | loadLibraries =>
      rw [Session.carryOut, Session.engine_loadLibraries]
      exact h i
    | register library => exact List.forall_mem_append.2 ⟨h i, List.forall_mem_singleton.2 htask⟩
    | command command =>
      have hkept := (Session.keeps_moves (P := fun _ => True)
        (Session.moves_perform cast (theatre.session i) command) (fun _ _ _ _ _ => trivial)
        trivial).1
      rw [Session.carryOut, hkept.libraries]
      exact h i
  intro j
  rw [Theatre.carryOut, engines_resume]
  split
  · exact hengine
  · exact h j

theorem Holds.run (cast : κ → Controller κ α γ) (h : theatre.Holds kind)
    {tasks : List (Fin n × Task n κ α γ)} (htasks : ∀ task ∈ tasks, task.2.Of kind) :
    (theatre.run cast tasks).Holds kind := by
  induction tasks generalizing theatre with
  | nil => exact h
  | cons task rest ih =>
    obtain ⟨htask, hrest⟩ := List.forall_mem_cons.1 htasks
    exact ih (h.carryOut cast task.1 htask) hrest

/-- What every library of a kind keeps, a task keeps of every registry. -/
theorem keeps_carryOut (cast : κ → Controller κ α γ) (h : theatre.Holds kind) (i : Fin n)
    (hkeeps : ∀ library, kind library → library.Keeps i P) (task : Task n κ α γ) (place : Fin n)
    (hplace : P (theatre.registries.get place)) :
    P ((theatre.carryOut cast i task).registries.get place) := by
  rw [Theatre.carryOut, registries_resume]
  split
  next huses =>
    subst huses
    exact Session.keeps_carryOut cast task (fun library hmem => hkeeps library (h i library hmem))
      hplace
  next => exact hplace

/-- **What every library of a kind keeps, whoever puts it in, stays true of every
registry**, in whatever order the engines take their turns. -/
theorem keeps_run (cast : κ → Controller κ α γ) (h : theatre.Holds kind)
    (hkeeps : ∀ i library, kind library → library.Keeps i P)
    {tasks : List (Fin n × Task n κ α γ)} (htasks : ∀ task ∈ tasks, task.2.Of kind)
    (place : Fin n) (hplace : P (theatre.registries.get place)) :
    P ((theatre.run cast tasks).registries.get place) := by
  induction tasks generalizing theatre with
  | nil => exact hplace
  | cons task rest ih =>
    obtain ⟨htask, hrest⟩ := List.forall_mem_cons.1 htasks
    exact ih (h.carryOut cast task.1 htask) hrest
      (keeps_carryOut cast h task.1 (hkeeps task.1) task.2 place hplace)

end Theatre

end SceneScript
