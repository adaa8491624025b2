import SceneScript.Proofs.Engine.Trace
/-!
# Engine — the phase and the stage

The phase of an engine is kept apart from its stage and its document, so it
can agree with them or not (`Agrees`). Between commands it is never one of the
two phases of a switch, and it agrees, with one exception: disposing of an
engine takes the scene off the stage and leaves the phase as it was. The stage
is then `Abandoned`, until a document is opened or a scene is shown again;
`agrees_run_iff` says that this is the only way for them to part.
-/

namespace SceneScript

variable {n : Nat} {κ α γ : Type}

/-! ## Abandoned stages -/

/-- Whether a happening brings the phase of an engine up to date. -/
def Happening.Renews : Happening n κ α γ → Prop
  | .opened .. => True
  | .shown _ => True
  | _ => False

/-- A scene was taken off the stage by disposing of the engine, and since then
no document was opened and no scene was shown. -/
def Trace.Abandoned (trace : Trace n κ α γ) : Prop :=
  ∃ before stage after, trace = before ++ .disposed stage :: after ∧
    stage.scene.isSome ∧ ∀ e ∈ after, ¬ e.Renews

namespace Trace

variable {t u : Trace n κ α γ}

theorem Abandoned.exists_disposed (h : Abandoned t) : ∃ stage, .disposed stage ∈ t := by
  obtain ⟨before, stage, after, rfl, -, -⟩ := h
  exact ⟨stage, List.mem_append_right _ List.mem_cons_self⟩

/-- A stage is abandoned in the end if it is abandoned by what happens last, or
was before and nothing renewed it. -/
theorem abandoned_append_iff :
    Abandoned (t ++ u) ↔ Abandoned u ∨ Abandoned t ∧ ∀ e ∈ u, ¬ e.Renews := by
  constructor
  · rintro ⟨before, stage, after, heq, hscene, hafter⟩
    rcases List.append_eq_append_iff.1 heq with ⟨rest, rfl, hu⟩ | ⟨rest, rfl, hrest⟩
    · exact .inl ⟨rest, stage, after, hu, hscene, hafter⟩
    · -- the disposal is the first thing of `u`, or lies in `t`
      cases rest with
      | nil => exact .inl ⟨[], stage, after, hrest.symm, hscene, hafter⟩
      | cons e rest =>
        cases hrest
        exact .inr ⟨⟨before, stage, rest, rfl, hscene,
          fun e he => hafter e (List.mem_append_left _ he)⟩,
          fun e he => hafter e (List.mem_append_right _ he)⟩
  · rintro (⟨before, stage, after, rfl, hscene, hafter⟩ |
      ⟨⟨before, stage, after, rfl, hscene, hafter⟩, hu⟩)
    · exact ⟨t ++ before, stage, after, (List.append_assoc ..).symm, hscene, hafter⟩
    · refine ⟨before, stage, after ++ u, by simp, hscene, fun e he => ?_⟩
      exact (List.mem_append.1 he).elim (hafter e) (hu e)

/-- Disposing of an engine abandons its stage when there is a scene on it. -/
theorem abandoned_disposed_iff {stage : Stage} :
    Abandoned ([.disposed stage] : Trace n κ α γ) ↔ stage.scene.isSome := by
  constructor
  · rintro ⟨before, other, after, heq, hscene, -⟩
    cases before with
    | nil =>
      cases heq
      exact hscene
    | cons e rest => simp at heq
  · exact fun hscene => ⟨[], stage, [], rfl, hscene, by simp⟩

/-- What neither disposes nor renews has no say. -/
theorem abandoned_append_quiet (hdisposed : ∀ stage, .disposed stage ∉ u)
    (hrenews : ∀ e ∈ u, ¬ e.Renews) : Abandoned (t ++ u) ↔ Abandoned t := by
  rw [abandoned_append_iff]
  exact ⟨fun h => h.elim (fun hu => (hu.exists_disposed.elim hdisposed).elim) And.left,
    fun h => .inr ⟨h, hrenews⟩⟩

/-- What renews and does not dispose ends it. -/
theorem not_abandoned_append (hdisposed : ∀ stage, .disposed stage ∉ u) {e : Happening n κ α γ}
    (he : e ∈ u) (hrenews : e.Renews) : ¬ Abandoned (t ++ u) := by
  rw [abandoned_append_iff]
  rintro (hu | ⟨-, hu⟩)
  · exact hu.exists_disposed.elim hdisposed
  · exact hu e he hrenews

end Trace

namespace Session

/-! ## What keeps the phase up to date -/

/-- The phase of an engine says how far it has come. -/
structure Agrees (s : Session n κ α γ) : Prop where
  active : s.engine.phase = .active ↔ s.engine.stage.scene.isSome
  unloaded : s.engine.phase = .unloaded ↔ s.engine.document = none
  parsed : s.engine.phase = .parsed ↔
    s.engine.document.isSome ∧ s.engine.stage.scene = none

/-- What holds of the phase after whatever has happened. -/
structure Tracks (t : Trace n κ α γ) (s : Session n κ α γ) : Prop where
  notSelected : s.engine.phase ≠ .sceneSelected
  notBuilt : s.engine.phase ≠ .built
  unloaded : s.engine.phase = .unloaded ↔ s.engine.document = none
  active : s.engine.stage.scene.isSome → s.engine.phase = .active
  abandoned : s.engine.phase = .active ∧ s.engine.stage.scene = none ↔ t.Abandoned

/-- Nothing has been asked of the engine yet. -/
structure IsNew (s : Session n κ α γ) : Prop where
  document : s.engine.document = none
  scene : s.engine.stage.scene = none
  phase : s.engine.phase = .unloaded

variable {cast : κ → Controller κ α γ} {s s' : Session n κ α γ} {t u : Trace n κ α γ}

theorem IsNew.tracks (h : s.IsNew) : s.Tracks [] where
  notSelected := by simp [h.phase]
  notBuilt := by simp [h.phase]
  unloaded := iff_of_true h.phase h.document
  active hscene := by simp [h.scene] at hscene
  abandoned := by
    refine iff_of_false (fun hactive => ?_) fun habandoned => ?_
    · simp [h.phase] at hactive
    · simpa using habandoned.exists_disposed

/-- What leaves phase, document and stage alone, and neither disposes nor
renews, tracks on. -/
theorem Tracks.quiet (h : s.Tracks t) (hphase : s'.engine.phase = s.engine.phase)
    (hdocument : s'.engine.document = s.engine.document)
    (hscene : s'.engine.stage.scene.isSome = s.engine.stage.scene.isSome)
    (hdisposed : ∀ stage, .disposed stage ∉ u) (hrenews : ∀ e ∈ u, ¬ e.Renews) :
    s'.Tracks (t ++ u) where
  notSelected := hphase ▸ h.notSelected
  notBuilt := hphase ▸ h.notBuilt
  unloaded := by rw [hphase, hdocument, h.unloaded]
  active := by
    rw [hphase, hscene]
    exact h.active
  abandoned := by
    rw [Trace.abandoned_append_quiet hdisposed hrenews, ← h.abandoned, hphase,
      ← Option.not_isSome_iff_eq_none, ← Option.not_isSome_iff_eq_none, hscene]

/-- Opening a document puts the phase right. -/
theorem Tracks.openDocument (h : s.Tracks t) (document : Markup.Node) :
    (s.openDocument document).Tracks (t ++ [.opened document s s.loadLibraries]) := by
  obtain ⟨imports, hopened⟩ := exists_engine_openDocument s document
  have hnot : ¬ Trace.Abandoned (t ++ [.opened document s s.loadLibraries]) :=
    Trace.not_abandoned_append (by simp) (List.mem_singleton_self _) trivial
  cases hscene : s.engine.stage.scene with
  | none => constructor <;> simp [hopened, hscene, hnot]
  | some scene =>
    have hactive : s.engine.phase = .active := h.active (by simp [hscene])
    constructor <;> simp [hopened, hscene, hactive, hnot]

/-- A switch puts the phase right whatever it was. -/
theorem tracks_switchScene (cast : κ → Controller κ α γ) {wanted name : String}
    {definition : Markup.Node} (hfound : s.findScene? wanted = some (name, definition)) :
    (s.switchScene cast name definition).Tracks (t ++ s.switchTrace cast name definition) := by
  obtain ⟨pending, hswitched⟩ := exists_engine_switchScene cast s name definition
  obtain ⟨document, hdocument, -⟩ := Option.bind_eq_some_iff.1 hfound
  have hshown : .shown ((s.leave cast).entered cast name definition).1 ∈
      s.switchTrace cast name definition := by
    simp [switchTrace, raiseTrace]
  have hnot : ¬ Trace.Abandoned (t ++ s.switchTrace cast name definition) :=
    Trace.not_abandoned_append (fun _ hmem => isWork_switchTrace cast s name definition _ hmem)
      hshown trivial
  constructor <;> simp [hswitched, hdocument, Stage.attach, hnot]

variable [AssetService α]

/-- Disposing abandons the stage if there is a scene on it. -/
theorem Tracks.dispose (h : s.Tracks t) :
    s.dispose.Tracks (t ++ [.disposed s.engine.stage]) where
  notSelected := h.notSelected
  notBuilt := h.notBuilt
  unloaded := h.unloaded
  active hscene := by simp [Session.dispose, setStage, setAssets, Stage.clear] at hscene
  abandoned := by
    rw [Trace.abandoned_append_iff, Trace.abandoned_disposed_iff, ← h.abandoned]
    constructor
    · rintro ⟨hactive, -⟩
      cases hscene : s.engine.stage.scene with
      | none => exact .inr ⟨⟨hactive, rfl⟩, by simp [Happening.Renews]⟩
      | some scene => exact .inl rfl
    · rintro (hscene | ⟨⟨hactive, -⟩, -⟩)
      · exact ⟨h.active hscene, rfl⟩
      · exact ⟨hactive, rfl⟩

/-- **Whatever an engine does, its phase is tracked.** -/
theorem Tracks.move (h : s.Tracks t) (hmove : Move cast s u s') : s'.Tracks (t ++ u) := by
  cases hmove with
  | openDocument document => exact h.openDocument document
  | switchScene hfound => exact tracks_switchScene cast hfound
  | dispose => exact h.dispose
  | tell hscene _ =>
    exact h.quiet rfl rfl (by simp [tell, setStage, hscene]) (by simp) (by simp [Happening.Renews])
  | click path event hscene =>
    unfold clicked
    split
    · exact h.quiet rfl rfl (by simp [setStage, hscene]) (by simp) (by simp)
    · exact h.quiet rfl rfl rfl (by simp) (by simp)
  | act dt => exact h.quiet rfl rfl (by simp [setStage, Stage.act]) (by simp) (by simp)
  | _ => exact h.quiet rfl rfl rfl (by simp) (by simp [Happening.Renews])

/-- And so it is after any moves of a new engine. -/
theorem IsNew.tracks_moves (hnew : s.IsNew) (h : Moves cast s t s') : s'.Tracks t := by
  induction h with
  | refl => exact hnew.tracks
  | snoc _ hmove ih => exact ih.move hmove

omit [AssetService α] in
/-- A phase that is tracked agrees with the stage unless the stage is
abandoned. -/
theorem Tracks.agrees_iff (h : s.Tracks t) : s.Agrees ↔ ¬ t.Abandoned := by
  rw [← h.abandoned]
  constructor
  · rintro hagrees ⟨hactive, hnone⟩
    simpa [hnone] using hagrees.active.1 hactive
  · intro hshown
    refine ⟨⟨fun hactive => ?_, h.active⟩, h.unloaded, fun hparsed => ⟨?_, ?_⟩, ?_⟩
    · exact Option.isSome_iff_ne_none.2 fun hnone => hshown ⟨hactive, hnone⟩
    · rw [Option.isSome_iff_ne_none, ne_eq, ← h.unloaded, hparsed]
      exact nofun
    · rw [← Option.not_isSome_iff_eq_none]
      intro hscene
      simpa [hparsed] using h.active hscene
    · rintro ⟨hdocument, hnone⟩
      -- of the five phases only `parsed` is left
      cases hphase : s.engine.phase with
      | parsed => rfl
      | unloaded => simp [h.unloaded.1 hphase] at hdocument
      | active => exact (hshown ⟨hphase, hnone⟩).elim
      | sceneSelected => exact (h.notSelected hphase).elim
      | built => exact (h.notBuilt hphase).elim

/-- **The phase of an engine agrees with its stage, except where the stage is
abandoned.** Whatever commands are given to a new engine, between them its
phase is none of a switch, and it says how far the engine has come unless a
scene was disposed of, and no document opened and no scene shown since then. -/
theorem agrees_run_iff (cast : κ → Controller κ α γ) (hnew : s.IsNew)
    (commands : List (Command κ)) :
    (s.run cast commands).engine.phase ≠ .sceneSelected ∧
      (s.run cast commands).engine.phase ≠ .built ∧
      ((s.run cast commands).Agrees ↔ ¬ (s.trace cast commands).Abandoned) := by
  have htracks : (s.run cast commands).Tracks (s.trace cast commands) :=
    hnew.tracks_moves (moves_run cast s commands)
  exact ⟨htracks.notSelected, htracks.notBuilt, htracks.agrees_iff⟩

/-- An engine whose index document has one scene. -/
def plain : Session 1 Unit SkinAssets Unit :=
  solo {} (MemorySource.load [("index.xml", "<stage><scene name='hall'/></stage>")]) {} ()

/-- It is loaded, disposed of, and loaded again. -/
theorem agrees_run_iff_plain :
    let commands : List (Command Unit) := [.loadStage, .dispose, .loadFile "index.xml"]
    plain.IsNew ∧
      (plain.run (fun _ => {}) commands).engine.phase ≠ .sceneSelected ∧
      (plain.run (fun _ => {}) commands).engine.phase ≠ .built ∧
      ((plain.run (fun _ => {}) commands).Agrees ↔
        ¬ (plain.trace (fun _ => {}) commands).Abandoned) := by
  intro commands
  have hnew : plain.IsNew := ⟨rfl, rfl, rfl⟩
  exact ⟨hnew, agrees_run_iff _ hnew commands⟩

/-- **Disposing parts the phase from the stage.** -/
theorem not_agrees_dispose : ¬ (plain.run (fun _ => {}) [.loadStage, .dispose]).Agrees := by
  intro h
  have hactive : (plain.run (fun _ => {}) [.loadStage, .dispose]).engine.phase = .active := by
    decide +kernel
  have hscene := h.active.1 hactive
  cases hscene

end Session

end SceneScript
