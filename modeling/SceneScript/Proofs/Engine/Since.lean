import SceneScript.Proofs.Engine.Trace
/-!
# Engine — since a scene was built

The scene on the stage was built at some time, from a definition that the
document in use had for its name, and nothing has been built since
(`Trace.LastBuilt`). What is to be shown of it in the end is shown of it
as it goes onto the stage, and then for every move that leaves it there; that
is enough for any run (`Since.moves`). A scene that stays on the stage is
changed by time, by clicks and by hooks, and by nothing else (`Move.stays`).
-/

namespace SceneScript

variable {n : Nat} {κ α γ : Type}

/-- Hooks leave alone what is seen of a scene by some view of it. -/
def Happening.Keeps {δ : Type} (cast : κ → Controller κ α γ) (view : Scene → δ) :
    Happening n κ α γ → Prop
  | .told controller occasion cue =>
    view ((cast controller).hook occasion cue).scene = view cue.scene
  | _ => True

/-- The last scene was built in a session `q`, under a name and from its
definition. What has happened since, its entry to begin with, is `later`. -/
structure Trace.LastBuilt (t : Trace n κ α γ) (q : Session n κ α γ) (name : String)
    (definition : Markup.Node) (later : Trace n κ α γ) : Prop where
  /-- Name and definition are those of a scene that the document in use declares. -/
  found : ∃ wanted, q.findScene? wanted = some (name, definition)
  built : ∃ earlier, t = earlier ++ q.building name definition :: later
  last : ∀ e ∈ later, ¬ e.Builds

/-- Where nothing more is built, the last scene stays the last. -/
theorem Trace.LastBuilt.append {t u later : Trace n κ α γ} {q : Session n κ α γ} {name : String}
    {definition : Markup.Node} (h : t.LastBuilt q name definition later)
    (hu : ∀ e ∈ u, ¬ e.Builds) : (t ++ u).LastBuilt q name definition (later ++ u) := by
  obtain ⟨hfound, ⟨earlier, rfl⟩, hlater⟩ := h
  exact ⟨hfound, ⟨earlier, by simp⟩, List.forall_mem_append.2 ⟨hlater, hu⟩⟩

/-- A statement about a scene on the stage: how it was built, in which session
and from what, what has happened since, and how it stands now. -/
abbrev Tale (n : Nat) (κ α γ : Type) :=
  Session n κ α γ → String → Markup.Node → Trace n κ α γ → Session n κ α γ → Scene → Prop

namespace Session

variable {cast : κ → Controller κ α γ} {s r s' q : Session n κ α γ} {t u later : Trace n κ α γ}
  {P : Tale n κ α γ} {scene : Scene} {name : String} {definition : Markup.Node}

/-- What happens between the building of a scene and its time on the stage. -/
def entryTrace (cast : κ → Controller κ α γ) (s : Session n κ α γ) (name : String)
    (definition : Markup.Node) : Trace n κ α γ :=
  (s.assemble name definition).2.enterTrace (s.assemble name definition).1 ++
    [.shown (s.entered cast name definition).1]

/-- **The two ways of entering**: unnoticed, or with the enter hook told. -/
theorem enter_cases (cast : κ → Controller κ α γ) (s : Session n κ α γ) (scene : Scene) :
    (s.enterTrace scene = [] ∧ s.enter cast scene = (scene, s)) ∨
    ∃ controller, s.enterTrace scene = [.told controller .enter (s.cue scene)] ∧
      s.enter cast scene = (((cast controller).hook .enter (s.cue scene)).scene,
        (s.resume ((cast controller).hook .enter (s.cue scene))).setPending
          ((cast controller).hook .enter (s.cue scene)).requested) := by
  unfold enterTrace enter
  cases s.scope.current with
  | none => exact .inl ⟨rfl, rfl⟩
  | some entry => exact .inr ⟨entry.2, rfl, rfl⟩

/-- An entry keeps of a scene what the enter hook keeps of it. -/
theorem view_enter {δ : Type} {view : Scene → δ}
    (h : ∀ e ∈ s.enterTrace scene, e.Keeps cast view) :
    view (s.enter cast scene).1 = view scene := by
  rcases enter_cases cast s scene with ⟨-, hentered⟩ | ⟨controller, htrace, hentered⟩
  · rw [hentered]
  · rw [htrace, List.forall_mem_singleton] at h
    rw [hentered]
    exact h

/-- What becomes of a scene that stays on the stage. -/
inductive Stays (cast : κ → Controller κ α γ) (s : Session n κ α γ) (scene : Scene)
    (u : Trace n κ α γ) : Scene → Prop where
  | still : Stays cast s scene u scene
  | act (dt : Float32) : Stays cast s scene u (scene.act dt)
  | click (path : List Nat) : Stays cast s scene u (scene.editAt Actor.toggled path)
  | told {controller : κ} {occasion : Occasion} : .told controller occasion (s.cue scene) ∈ u →
      Stays cast s scene u (s.heard cast controller occasion scene).scene

/-- What neither time nor clicks change of a scene, hooks change. -/
theorem Stays.view {δ : Type} {view : Scene → δ} {scene' : Scene}
    (h : Stays cast s scene u scene')
    (hact : ∀ (scene : Scene) dt, view (scene.act dt) = view scene)
    (hclick : ∀ (scene : Scene) path, view (scene.editAt Actor.toggled path) = view scene)
    (hkeeps : ∀ e ∈ u, e.Keeps cast view) : view scene' = view scene := by
  cases h with
  | still => rfl
  | act dt => exact hact scene dt
  | click path => exact hclick scene path
  | told hmem => exact hkeeps _ hmem

/-- A switch ends with the scene built last. -/
theorem lastBuilt_switchTrace (cast : κ → Controller κ α γ) {wanted : String}
    (hfound : s.findScene? wanted = some (name, definition)) :
    (t ++ s.switchTrace cast name definition).LastBuilt (s.leave cast) name definition
      ((s.leave cast).entryTrace cast name definition) := by
  refine ⟨⟨wanted, (findScene?_leave cast s wanted).trans hfound⟩,
    ⟨t ++ s.leaveTrace, by simp [switchTrace, raiseTrace, entryTrace]⟩, ?_⟩
  exact List.forall_mem_append.2 ⟨not_builds_enterTrace _ _, by simp [Happening.Builds]⟩

/-- Of the scene on the stage, if there is one, it is known how it was built,
and a statement holds of it. -/
def Since (P : Tale n κ α γ) (t : Trace n κ α γ) (s : Session n κ α γ) : Prop :=
  ∀ scene, s.engine.stage.scene = some scene → ∃ q name definition later,
    t.LastBuilt q name definition later ∧ P q name definition later s scene

/-- A statement true of the scene on the stage is true of it still, if it is
still there. -/
def Retains (P : Tale n κ α γ) (s : Session n κ α γ) (u : Trace n κ α γ) (s' : Session n κ α γ) :
    Prop :=
  ∀ scene', s'.engine.stage.scene = some scene' → ∃ scene, s.engine.stage.scene = some scene ∧
    ∀ q name definition later, P q name definition later s scene →
      P q name definition (later ++ u) s' scene'

theorem Since.retain (h : s.Since P t) (hretains : s.Retains P u s') (hu : ∀ e ∈ u, ¬ e.Builds) :
    s'.Since P (t ++ u) := by
  intro scene' hscene'
  obtain ⟨scene, hscene, hkeeps⟩ := hretains scene' hscene'
  obtain ⟨q, name, definition, later, hlast, hP⟩ := h scene hscene
  exact ⟨q, name, definition, later ++ u, hlast.append hu, hkeeps q name definition later hP⟩

variable [AssetService α]

/-- A move shows another scene, or builds nothing. -/
theorem Move.builds_cases (h : Move cast s u s') :
    (∃ wanted name definition, s.findScene? wanted = some (name, definition) ∧
      u = s.switchTrace cast name definition ∧ s' = s.switchScene cast name definition) ∨
        ∀ e ∈ u, ¬ e.Builds := by
  cases h with
  | switchScene hfound => exact .inl ⟨_, _, _, hfound, rfl, rfl⟩
  | _ => exact .inr (by simp [Happening.Builds])

/-- **A scene stays on the stage** in a move that builds nothing and leaves one
there. -/
theorem Move.stays (h : Move cast s u s') (hbuilds : ∀ e ∈ u, ¬ e.Builds) {scene' : Scene}
    (hscene' : s'.engine.stage.scene = some scene') :
    ∃ scene, s.engine.stage.scene = some scene ∧ Stays cast s scene u scene' := by
  cases h with
  | openDocument document =>
    obtain ⟨imports, hopened⟩ := exists_engine_openDocument s document
    rw [hopened] at hscene'
    exact ⟨scene', hscene', .still⟩
  | @tell scene controller occasion hscene _ =>
    cases hscene'
    exact ⟨scene, hscene, .told (List.mem_singleton_self _)⟩
  | switchScene _ =>
    exact (hbuilds _ (List.mem_append_right _ List.mem_cons_self) trivial).elim
  | dispose => cases hscene'
  | @click scene path event hscene =>
    unfold clicked at hscene'
    split at hscene'
    · cases hscene'
      exact ⟨scene, hscene, .click path⟩
    · exact ⟨scene', hscene', .still⟩
  | act dt =>
    obtain ⟨scene, hscene, rfl⟩ := Option.map_eq_some_iff.1 hscene'
    exact ⟨scene, hscene, .act dt⟩
  | _ => exact ⟨scene', hscene', .still⟩

/-- **A statement holds since the scene was built** if it does when the scene
goes onto the stage, and every move that builds nothing retains it. -/
theorem Since.moves (h : s.Since P t)
    (hshown : ∀ (r : Session n κ α γ) name definition scene,
      (r.raise cast name definition).engine.stage.scene = some scene →
      P r name definition (r.entryTrace cast name definition) (r.raise cast name definition) scene)
    (hretains : ∀ {r r' : Session n κ α γ} {v}, Move cast r v r' → (∀ e ∈ v, ¬ e.Builds) →
      r.Retains P v r')
    (hmoves : Moves cast s u s') : s'.Since P (t ++ u) := by
  induction hmoves with
  | refl => rwa [List.append_nil]
  | @snoc r s' u v _ hmove ih =>
    rw [← List.append_assoc]
    -- a switch tells of the new scene, whatever was known of the one before
    rcases hmove.builds_cases with ⟨wanted, name, definition, hfound, rfl, rfl⟩ | hbuilds
    · exact fun scene hscene => ⟨r.leave cast, name, definition, _,
        lastBuilt_switchTrace cast hfound, hshown _ _ _ scene hscene⟩
    · exact ih.retain (hretains hmove hbuilds) hbuilds

end Session

end SceneScript
