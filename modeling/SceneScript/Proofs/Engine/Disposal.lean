import SceneScript.Proofs.Engine.Parts
import SceneScript.Proofs.Engine.Requests
import SceneScript.Proofs.Engine.Start
/-!
# Engine — after the end

With nothing on the stage, events are delivered to nobody and frames tell nobody.
What remains is the scene that a hook has asked for: it waits for the next frame
(`Awaits`), and disposing of the engine does not call it off. So a disposed
engine stays silent exactly when no frame is run or no scene waits
(`silent_dispose_iff`).
-/

namespace SceneScript

variable {n : Nat} {κ α γ : Type}

/-- No hook is called, and no scene is shown. -/
def Trace.Silent (trace : Trace n κ α γ) : Prop :=
  trace.calls = [] ∧ trace.shows = []

theorem Trace.silent_nil : Trace.Silent ([] : Trace n κ α γ) :=
  ⟨rfl, rfl⟩

theorem Trace.silent_append_iff {t u : Trace n κ α γ} :
    Trace.Silent (t ++ u) ↔ t.Silent ∧ u.Silent := by
  simp only [Silent, calls_append, shows_append, List.append_eq_nil_iff, and_and_and_comm]

namespace Session

/-! ## Names that lead to scenes -/

/-- A name leads to a scene: to one that the document in use declares, or, where
it is the name of a document, to the one that this starts with. -/
def Leads (s : Session n κ α γ) (name : String) : Prop :=
  if s.engine.config.isDocumentName name then
    ∃ document start, s.readDocument name = .ok (document, start) ∧ Declares document start
  else ∃ document, s.engine.document = some document ∧ Declares document name

/-- A scene waits for the next frame: the name that a hook asked for leads to one. -/
def Awaits (s : Session n κ α γ) : Prop :=
  ∃ name, s.engine.pending = some name ∧ s.Leads name

theorem not_awaits_of_none {s : Session n κ α γ} (h : s.engine.pending = none) : ¬ s.Awaits := by
  rintro ⟨name, hname, -⟩
  rw [h] at hname
  cases hname

/-- Where a name leads is up to the documents. -/
theorem leads_congr {s t : Session n κ α γ} (hconfig : s.engine.config = t.engine.config)
    (hdocuments : s.engine.documents = t.engine.documents)
    (hdocument : s.engine.document = t.engine.document) (name : String) :
    s.Leads name ↔ t.Leads name := by
  rw [Leads, Leads, hconfig, hdocument, readDocument_congr hdocuments]

theorem isSome_findScene?_iff {s : Session n κ α γ} {wanted : String} :
    (s.findScene? wanted).isSome ↔
      ∃ document, s.engine.document = some document ∧ Declares document wanted := by
  constructor
  · intro h
    obtain ⟨found, hfound⟩ := Option.isSome_iff_exists.1 h
    cases hdocument : s.engine.document with
    | none =>
      rw [findScene?, hdocument] at hfound
      cases hfound
    | some document =>
      obtain ⟨halike, earlier, later, hall, -⟩ := (findScene?_eq_some_iff hdocument).1 hfound
      exact ⟨document, rfl, found, by simp [hall], halike⟩
  · rintro ⟨document, hdocument, hdeclares⟩
    exact Option.isSome_iff_exists.2 (exists_findScene? hdocument hdeclares)

variable {cast : κ → Controller κ α γ} {s : Session n κ α γ} {name : String}

/-- **A scene that is found is shown.** -/
theorem silent_showTrace_iff :
    Trace.Silent (s.showTrace cast name) ↔ (s.findScene? name).isSome = false := by
  unfold showTrace
  cases s.findScene? name with
  | none => simp [Trace.silent_nil]
  | some found =>
    obtain ⟨pending, hswitched⟩ := exists_engine_switchScene cast s found.1 found.2
    simp [Trace.Silent, shows_switchTrace, hswitched, Stage.attach]

/-- **A render is silent exactly when its name leads to no scene.** -/
theorem silent_renderTrace_iff : Trace.Silent (s.renderTrace cast name) ↔ ¬ s.Leads name := by
  have hasked (t : Trace n κ α γ) : Trace.Silent (.asked name :: t) ↔ t.Silent := Iff.rfl
  have hopened (document : Markup.Node) (before after : Session n κ α γ) (t : Trace n κ α γ) :
      Trace.Silent (.opened document before after :: t) ↔ t.Silent := Iff.rfl
  rw [renderTrace, hasked]
  by_cases hname : s.engine.config.isDocumentName name = true
  · rw [Leads, if_pos hname, if_pos hname]
    cases s.readDocument name with
    | error e => simp [Trace.silent_nil]
    | ok read =>
      obtain ⟨document, start⟩ := read
      obtain ⟨imports, hopen⟩ := exists_engine_openDocument s document
      simp only [hopened, silent_showTrace_iff, Bool.eq_false_iff, ne_eq, isSome_findScene?_iff,
        hopen]
      simp
  · rw [Leads, if_neg hname, if_neg hname, silent_showTrace_iff, Bool.eq_false_iff, ne_eq,
      isSome_findScene?_iff]

/-- A silent render leaves the stage as it is, and what waits. -/
theorem switchTo_of_not_leads (h : ¬ s.Leads name) :
    (s.switchTo cast name).engine.stage = s.engine.stage ∧
      (s.switchTo cast name).engine.pending = s.engine.pending := by
  have hshow (r : Session n κ α γ) (wanted : String)
      (hnone : ¬ ∃ document, r.engine.document = some document ∧ Declares document wanted) :
      (r.showScene cast wanted).2 = r := by
    rw [← isSome_findScene?_iff, Option.not_isSome_iff_eq_none] at hnone
    rw [showScene, hnone]
  rw [switchTo_eq]
  by_cases hname : s.engine.config.isDocumentName name = true
  · rw [Leads, if_pos hname] at h
    rw [if_pos hname]
    cases hread : s.readDocument name with
    | error e => exact ⟨rfl, rfl⟩
    | ok read =>
      obtain ⟨document, start⟩ := read
      obtain ⟨imports, hopen⟩ := exists_engine_openDocument s document
      have hnone : ¬ Declares document start := fun hdeclares =>
        h ⟨document, start, hread, hdeclares⟩
      have hkept := hshow (s.openDocument document) start (by simpa [hopen] using hnone)
      simp only [hkept, hopen, and_self]
  · rw [Leads, if_neg hname] at h
    rw [if_neg hname, hshow s name h]
    exact ⟨rfl, rfl⟩

/-! ## An empty stage -/

variable (cast)

/-- Nobody is told on an empty stage. -/
theorem consultTrace_of_none (h : s.engine.stage.scene = none) (controller : Option κ)
    (occasion : Occasion) : s.consultTrace cast controller occasion = [] ∧
      s.consult cast controller occasion = s := by
  unfold consultTrace consult
  rw [h]
  exact ⟨rfl, rfl⟩

/-- What was asked for is rendered in silence exactly when no scene waits; then the
stage stays as it is, and nothing is asked for any more. -/
theorem silent_followPending_iff :
    (Trace.Silent (s.awake.followTrace cast s.engine.pending) ↔ ¬ s.Awaits) ∧
      (¬ s.Awaits → (s.followPending cast).engine.stage = s.engine.stage ∧
        (s.followPending cast).engine.pending = none) := by
  cases hpending : s.engine.pending with
  | none =>
    rw [followPending, hpending]
    exact ⟨iff_of_true Trace.silent_nil (not_awaits_of_none hpending), fun _ => ⟨rfl, rfl⟩⟩
  | some name =>
    have hleads : s.awake.Leads name ↔ s.Leads name := leads_congr rfl rfl rfl name
    have hawaits : s.Awaits ↔ s.Leads name := by simp [Awaits, hpending]
    rw [followPending, hpending, followTrace, silent_renderTrace_iff, hleads, hawaits]
    exact ⟨Iff.rfl, fun h => switchTo_of_not_leads (s := s.awake) (mt hleads.1 h)⟩

/-- **On an empty stage a step does no more than show the scene that waits.** -/
theorem step_of_none (hscene : s.engine.stage.scene = none) (dt : Float32) :
    (Trace.Silent (s.stepTrace cast dt) ↔ ¬ s.Awaits) ∧
      (¬ s.Awaits →
        (s.step cast dt).engine.stage.scene = none ∧ (s.step cast dt).engine.pending = none) := by
  obtain ⟨hiff, hstays⟩ := silent_followPending_iff cast (s := s)
  have hrest (h : ¬ s.Awaits) :
      ((s.followPending cast).setStage
        ((s.followPending cast).engine.stage.act dt)).engine.stage.scene = none := by
    rw [setStage, (hstays h).1, Stage.act, hscene]
    rfl
  rw [stepTrace, Trace.silent_append_iff, hiff]
  constructor
  · refine and_iff_left_of_imp fun h => ?_
    rw [(consultTrace_of_none cast (hrest h) _ _).1]
    exact Trace.silent_nil
  · intro h
    rw [step, updateScene_eq, (consultTrace_of_none cast (hrest h) _ _).2]
    exact ⟨hrest h, (hstays h).2⟩

/-- Nothing on an empty stage is hit by an event. -/
theorem event_of_none [AssetService α] (hscene : s.engine.stage.scene = none)
    {command : Command κ} (hevent : command.IsEvent = true) :
    s.performTrace cast command = [] ∧ s.perform cast command = s := by
  cases command with
  | fire actor event =>
    simp [performTrace, perform, fireTrace, fire, hscene]
  | fireAt point event =>
    simp [performTrace, perform, fireAtTrace, fireAt, hscene]
  | _ => cases hevent

/-- A frame is a step once the clock has ticked. -/
theorem frame_of_none [AssetService α] (hscene : s.engine.stage.scene = none)
    {command : Command κ} (hframe : command.IsFrame = true) :
    (Trace.Silent (s.performTrace cast command) ↔ ¬ s.Awaits) ∧
      (¬ s.Awaits → (s.perform cast command).engine.stage.scene = none ∧
        (s.perform cast command).engine.pending = none) := by
  have htick (elapsed : Nat) := step_of_none cast
    (s := { s with engine := { s.engine with clock := (s.engine.clock.tick elapsed).2 } }) hscene
    (s.engine.clock.tick elapsed).1
  cases command with
  | update elapsed => exact htick elapsed
  | updateBy seconds => exact htick ((nanosOf? seconds).getD 0)
  | _ => cases hframe

/-- **An empty stage stays silent**, through frames and events, exactly when no
frame is run or no scene waits; and then it stays empty. -/
theorem silent_run_iff [AssetService α] (hscene : s.engine.stage.scene = none)
    {commands : List (Command κ)}
    (hcommands : ∀ command ∈ commands, command.IsFrame = true ∨ command.IsEvent = true) :
    (Trace.Silent (s.trace cast commands) ↔
        (s.Awaits → ∀ command ∈ commands, command.IsFrame = false)) ∧
      (Trace.Silent (s.trace cast commands) →
        (s.run cast commands).engine.stage.scene = none) := by
  induction commands generalizing s with
  | nil => exact ⟨iff_of_true Trace.silent_nil (by simp), fun _ => hscene⟩
  | cons command rest ih =>
    obtain ⟨hcommand, hrest⟩ := List.forall_mem_cons.1 hcommands
    rw [trace, Trace.silent_append_iff]
    by_cases hframe : command.IsFrame = true
    · obtain ⟨hiff, hstays⟩ := frame_of_none cast hscene hframe
      rw [hiff]
      by_cases hawaits : s.Awaits
      · refine ⟨iff_of_false (fun h => h.1 hawaits) fun h => ?_, fun h => absurd hawaits h.1⟩
        exact Bool.false_ne_true ((h hawaits command List.mem_cons_self).symm.trans hframe)
      · -- nothing is asked for any more, so the rest is silent
        obtain ⟨hnext, hpending⟩ := hstays hawaits
        obtain ⟨hlater, hempty⟩ := ih hnext hrest
        have hsilent := hlater.2 fun h => absurd h (not_awaits_of_none hpending)
        exact ⟨iff_of_true ⟨hawaits, hsilent⟩ fun h => absurd h hawaits, fun _ => hempty hsilent⟩
    · obtain ⟨hnothing, hsame⟩ := event_of_none cast hscene (hcommand.resolve_left hframe)
      obtain ⟨hlater, hempty⟩ := ih hscene hrest
      have hframe : command.IsFrame = false := Bool.eq_false_iff.2 hframe
      rw [hnothing, hsame, run, List.foldl_cons, hsame]
      refine ⟨?_, fun h => hempty h.2⟩
      simp only [Trace.silent_nil, true_and, hlater, List.forall_mem_cons, hframe]

/-- **A disposed engine stays silent** until the host has it load or render again,
exactly when no frame is run or no scene was left waiting: what a hook has asked for
is not called off, and the first frame shows it. While the engine is silent, its
stage is empty. No hook is run but those of which the trace tells: a record that
hooks keep of themselves grows by its calls. -/
theorem silent_dispose_iff [AssetService α] (s : Session n κ α γ) {commands : List (Command κ)}
    (hcommands : ∀ command ∈ commands, command.IsFrame = true ∨ command.IsEvent = true) :
    (Trace.Silent (s.dispose.trace cast commands) ↔
        (s.Awaits → ∀ command ∈ commands, command.IsFrame = false)) ∧
      (Trace.Silent (s.dispose.trace cast commands) →
        (s.dispose.run cast commands).engine.stage.scene = none) ∧
      ∀ record : γ → List (Told κ), (∀ e ∈ s.dispose.trace cast commands, e.Records cast record) →
        record (s.dispose.run cast commands).world.host =
          record s.world.host ++ Trace.calls (s.dispose.trace cast commands) := by
  obtain ⟨hsilent, hempty⟩ := silent_run_iff cast (s := s.dispose) rfl hcommands
  exact ⟨hsilent, hempty, fun record hrecords => record_run hrecords⟩

/-- A controller that asks for the yard whenever a scene enters, and writes its
calls down. -/
def usher : Controller Unit SkinAssets (List (Told Unit)) :=
  .noted () { enter := fun cue => cue.request "yard" }

/-- An engine whose scene has just entered. -/
def foyer : Session 1 Unit SkinAssets (List (Told Unit)) :=
  let index := "<stage><scene name='hall' controller='usher'/>" ++
    "<scene name='yard' controller='usher'/></stage>"
  (solo {} (MemorySource.load [("index.xml", index)]) {} []).run (fun _ => usher)
    [.register "usher" (), .loadStage]

/-- What waits in the foyer is what decides, and what the host finds written down
is what the trace tells. -/
theorem silent_dispose_iff_foyer :
    let commands : List (Command Unit) := [.fire "door" "click", .update 0]
    let trace := foyer.dispose.trace (fun _ => usher) commands
    let after := foyer.dispose.run (fun _ => usher) commands
    (∀ command ∈ commands, command.IsFrame = true ∨ command.IsEvent = true) ∧
      (∀ e ∈ trace, e.Records (fun _ => usher) fun held => held) ∧
      foyer.engine.pending = some "yard" ∧
      (trace.Silent ↔ (foyer.Awaits → ∀ command ∈ commands, command.IsFrame = false)) ∧
      (trace.Silent → after.engine.stage.scene = none) ∧
      after.world.host = foyer.world.host ++ trace.calls := by
  intro commands trace after
  have hcommands : ∀ command ∈ commands, command.IsFrame = true ∨ command.IsEvent = true := by
    simp [commands, Command.IsFrame, Command.IsEvent]
  have hrecords : ∀ e ∈ trace, e.Records (fun _ => usher) fun held => held := by decide +kernel
  obtain ⟨hsilent, hempty, hrecord⟩ := silent_dispose_iff (fun _ => usher) foyer hcommands
  have hdiary : after.world.host = foyer.world.host ++ trace.calls :=
    hrecord (fun held => held) hrecords
  exact ⟨hcommands, hrecords, by decide +kernel, hsilent, hempty, hdiary⟩

/-- **A disposed engine comes back**: the next frame shows the yard, whose
controller is told that it enters, and of the frame. -/
theorem not_silent_dispose :
    let trace := foyer.dispose.trace (fun _ => usher) [.update 0]
    ¬ trace.Silent ∧ trace.shows.map (·.name) = ["yard"] ∧ trace.calls.length = 2 ∧
      (foyer.dispose.run (fun _ => usher) [.update 0]).engine.stage.scene.map (·.name) =
        some "yard" := by
  intro trace
  have hshows : trace.shows.map (·.name) = ["yard"] := by decide +kernel
  refine ⟨fun h => ?_, hshows, by decide +kernel, by decide +kernel⟩
  rw [h.2] at hshows
  cases hshows

end Session

end SceneScript
