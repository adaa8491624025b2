import SceneScript.Proofs.Engine.Trace
/-!
# Engine — what opening a document touches

A document is read before anything is done with it, so one that is refused
changes nothing. `loadingFile` and `renderingScene` are loading and rendering
done step by step on a session that keeps every step, also those before a
failure; that they come to the same (`run_loadingFile`, `run_renderingScene`)
is why nothing has to be undone.

One that is opened comes into use with its imports, and leaves the scene that
is running alone (`loadFile_allOrNothing`). That holds also where it was opened
to be rendered and has no scene of the name it starts with, so such a render
changes nothing only if the document was in use already
(`renderScene_unmoved_iff`).
-/

namespace SceneScript

variable {n : Nat} {κ α γ : Type}

/-! ## Imports and libraries -/

/-- Importing in a row imports nothing twice. -/
theorem Engine.nodup_imports_foldl {engine : Engine n κ α γ} (h : engine.imports.Nodup)
    (names : List String) : (names.foldl Engine.addImport engine).imports.Nodup := by
  induction names generalizing engine with
  | nil => exact h
  | cons name rest ih =>
    refine ih ?_
    rw [Engine.addImport]
    split
    next => exact h
    next hnew =>
      exact List.nodup_append.2
        ⟨h, by simp, by simpa using fun a ha => ne_of_mem_of_not_mem ha hnew⟩

/-- A library that fills the registry and touches nothing else. -/
def Library.OnlyRegisters (library : Library n κ α γ) : Prop :=
  ∀ id registry world, (library.populate id registry world).2 = world

/-- The built-in library is one. -/
theorem Library.onlyRegisters_builtin [AssetService α] :
    (Library.builtin : Library n κ α γ).OnlyRegisters := fun _ _ _ => rfl

namespace Session

/-- Libraries that only register leave the world as it was. -/
theorem world_loadLibraries {s : Session n κ α γ}
    (h : ∀ library ∈ s.engine.libraries, library.OnlyRegisters) :
    s.loadLibraries.world = s.world := by
  unfold loadLibraries
  generalize s.engine.libraries = libraries at h
  induction libraries generalizing s with
  | nil => rfl
  | cons library rest ih =>
    have hone : (s.loadLibrary library).world = s.world := by
      unfold loadLibrary
      split
      · rfl
      · exact h library List.mem_cons_self s.id s.registry s.world
    rw [List.foldl_cons, ih fun other hother => h other (List.mem_cons_of_mem _ hother), hone]

/-! ## Loading and rendering in place -/

/-- What is answered and left where something is either done, or refused with
nothing done. -/
def settled {β : Type} (s : Session n κ α γ) : Except LoadError (β × Session n κ α γ) →
    Except LoadError β × Session n κ α γ
  | .ok (x, s') => (.ok x, s')
  | .error e => (.error e, s)

theorem eq_of_settled {β : Type} {s s' : Session n κ α γ}
    {done : Except LoadError (β × Session n κ α γ)} {e : LoadError}
    (h : s.settled done = (.error e, s')) : s' = s := by
  cases done <;> cases h
  rfl

/-- Loads a document step by step. -/
def loadingFile (path : String) : StateM (Session n κ α γ) (Except LoadError String) := do
  match (← get).readDocument path with
  | .error e => return .error e
  | .ok (document, start) =>
    modify loadLibraries
    modify (installDocument · document)
    return .ok start

/-- Renders a scene step by step. -/
def renderingScene (cast : κ → Controller κ α γ) (name : String) :
    StateM (Session n κ α γ) (Except LoadError Bool) := do
  let named ← if (← get).engine.config.isDocumentName name then loadingFile name else
    pure (.ok name)
  match named with
  | .error e => return .error e
  | .ok name =>
    match (← get).findScene? name with
    | none => return .ok false
    | some (name, definition) =>
      modify (switchScene cast · name definition)
      return .ok true

/-- **Loading changes nothing before it can fail.** -/
theorem run_loadingFile (s : Session n κ α γ) (path : String) :
    (loadingFile path).run s = s.settled (s.loadFile path) := by
  unfold loadingFile
  simp only [loadFile_eq, StateT.run_bind, StateT.run_get, pure_bind]
  cases s.readDocument path <;> rfl

/-- **Nor does rendering.** -/
theorem run_renderingScene (cast : κ → Controller κ α γ) (s : Session n κ α γ) (name : String) :
    (renderingScene cast name).run s = s.settled (s.renderScene cast name) := by
  have hshow (r : Session n κ α γ) (name : String) : (do
        match (← get).findScene? name with
        | none => return .ok false
        | some (name, definition) =>
          modify (switchScene cast · name definition)
          return .ok true : StateM (Session n κ α γ) (Except LoadError Bool)).run r =
        (.ok (r.showScene cast name).1, (r.showScene cast name).2) := by
    simp only [StateT.run_bind, StateT.run_get, pure_bind]
    unfold showScene
    cases r.findScene? name <;> rfl
  unfold renderingScene
  simp only [StateT.run_bind, StateT.run_get, pure_bind]
  by_cases hd : s.engine.config.isDocumentName name = true
  · rw [if_pos hd, StateT.run_bind, run_loadingFile, renderScene_of_document cast hd]
    cases s.loadFile name with
    | error e => rfl
    | ok loaded => exact hshow loaded.2 loaded.1
  · rw [if_neg hd, renderScene_of_scene cast (Bool.eq_false_iff.2 hd)]
    exact hshow s name

/-! ## Opening a document -/

/-- A document starts with the scene it names, or else with its first one. -/
def StartsWith (document : Markup.Node) (start : String) : Prop :=
  document.attr? "startScene" = some start ∨
    document.attr? "startScene" = none ∧
      ∃ scene, (document.childrenNamed "scene").head? = some scene ∧
        start = (scene.attr? "name").getD "Scene_0"

theorem startsWith_of_startScene? {document : Markup.Node} {start : String}
    (h : startScene? document = some start) : StartsWith document start := by
  unfold startScene? at h
  rcases hstart : document.attr? "startScene" with _ | name
  · rw [hstart, Option.none_or] at h
    obtain ⟨scene, hscene, rfl⟩ := Option.map_eq_some_iff.1 h
    exact .inr ⟨hstart, scene, hscene, rfl⟩
  · rw [hstart] at h
    exact .inl (h ▸ hstart)

/-- A document that is read is the one its text stands for. -/
theorem readDocument_eq_ok {s : Session n κ α γ} {path start : String} {document : Markup.Node}
    (h : s.readDocument path = .ok (document, start)) :
    ∃ text, s.engine.documents path = .ok text ∧ Markup.parse text = .ok document ∧
      StartsWith document start := by
  rw [readDocument_eq] at h
  cases htext : s.engine.documents path with
  | error e =>
    rw [htext] at h
    cases h
  | ok text =>
    simp only [htext] at h
    cases hparse : Markup.parse text with
    | error e =>
      rw [hparse] at h
      cases h
    | ok parsed =>
      simp only [hparse] at h
      cases hstart : startScene? parsed with
      | none =>
        rw [hstart] at h
        cases h
      | some name =>
        rw [hstart] at h
        cases h
        exact ⟨text, rfl, hparse, startsWith_of_startScene? hstart⟩

/-! ## Imports stay distinct -/

section Reachable

variable [AssetService α]

/-- No move imports a namespace twice. -/
theorem Move.nodup_imports {cast : κ → Controller κ α γ} {s s' : Session n κ α γ}
    {t : Trace n κ α γ} (hmove : Move cast s t s') (h : s.engine.imports.Nodup) :
    s'.engine.imports.Nodup := by
  cases hmove with
  | openDocument document =>
    rw [Session.openDocument, imports_installDocument, engine_loadLibraries]
    exact Engine.nodup_imports_foldl h _
  | @switchScene wanted name definition _ =>
    obtain ⟨pending, hswitched⟩ := exists_engine_switchScene cast s name definition
    rw [hswitched]
    exact h
  | click path event _ =>
    unfold clicked
    split <;> exact h
  | _ => exact h

theorem Moves.nodup_imports {cast : κ → Controller κ α γ} {s s' : Session n κ α γ}
    {t : Trace n κ α γ} (hmoves : Moves cast s t s') (h : s.engine.imports.Nodup) :
    s'.engine.imports.Nodup := by
  induction hmoves with
  | refl => exact h
  | snoc _ hmove ih => exact hmove.nodup_imports ih

/-- **In the hands of a host no namespace is imported twice.** -/
theorem Reachable.nodup_imports {s : Session n κ α γ} (h : s.Reachable) :
    s.engine.imports.Nodup := by
  induction h with
  | fresh id config documents registry world =>
    have hempty : (Engine.ofConfig (n := n) (κ := κ) (α := α) (γ := γ) config documents).imports =
        if config.loadDefaultLibraries then [Library.builtinName] else [] := by
      unfold Engine.ofConfig
      split <;> rfl
    simp only [hempty]
    split <;> simp
  | perform cast command _ ih => exact (moves_perform cast _ command).nodup_imports ih
  | addImport name _ ih => exact Engine.nodup_imports_foldl ih [name]
  | addLibrary _ _ ih => exact ih
  | setStage _ _ ih => exact ih
  | elsewhere _ _ _ ih => exact ih

end Reachable

/-! ## What loading a document leaves alone -/

/-- What loading the document at a path makes of a session, where the document
starts with the scene `start`. -/
structure Loads (s s' : Session n κ α γ) (path start : String) : Prop where
  /-- The document in use is what the text at the path stands for. -/
  document : ∃ text document, s.engine.documents path = .ok text ∧
    Markup.parse text = .ok document ∧ s'.engine.document = some document ∧
    StartsWith document start
  /-- The scene that is running stays on the stage, with the free actors. -/
  stage : s'.engine.stage = s.engine.stage
  /-- The variables, the controllers and the one in charge, the assets, and all
  that belongs to the host and to other engines. -/
  world : s'.world = s.world
  lastRendered : s'.engine.lastRendered = s.engine.lastRendered
  pending : s'.engine.pending = s.engine.pending
  /-- Imports are added after those of before, and none twice. -/
  imports : s.engine.imports <+: s'.engine.imports
  nodup : s'.engine.imports.Nodup
  phase : s'.engine.phase = if s.engine.stage.scene.isSome then s.engine.phase else .parsed

/-- A document that is opened leaves the running scene alone. -/
theorem loads_of_readDocument {s : Session n κ α γ} {path start : String}
    {document : Markup.Node} (hread : s.readDocument path = .ok (document, start))
    (himports : s.engine.imports.Nodup)
    (hlibraries : ∀ library ∈ s.engine.libraries, library.OnlyRegisters) :
    s.Loads (s.openDocument document) path start := by
  obtain ⟨text, htext, hparse, hstart⟩ := readDocument_eq_ok hread
  obtain ⟨imports, hopened⟩ := exists_engine_openDocument s document
  have hfold : (s.openDocument document).engine.imports =
      ((importsOf document).foldl Engine.addImport s.engine).imports := by
    rw [openDocument, imports_installDocument, engine_loadLibraries]
  refine ⟨⟨text, document, htext, hparse, ?_, hstart⟩, ?_, ?_, ?_, ?_, ?_, ?_, ?_⟩
  · rw [hopened]
  · rw [hopened]
  · exact world_loadLibraries hlibraries
  · rw [hopened]
  · rw [hopened]
  · exact hfold ▸ Engine.prefix_imports_foldl _ _
  · exact hfold ▸ Engine.nodup_imports_foldl himports _
  · rw [hopened]
    cases s.engine.stage.scene <;> rfl

/-- **Loading a document is all or nothing, and leaves the running scene
alone.** Whatever a host did with an engine before, a load or a render that
fails has changed nothing of it by then; and a load that succeeds adds to the
imports, puts the parsed document into use, and changes nothing else but the
phase of an engine without a scene. -/
theorem loadFile_allOrNothing [AssetService α] {s : Session n κ α γ} (hs : s.Reachable)
    (hlibraries : ∀ library ∈ s.engine.libraries, library.OnlyRegisters)
    (cast : κ → Controller κ α γ) (path : String) :
    (∀ e s', (loadingFile path).run s = (.error e, s') → s' = s) ∧
      (∀ e s', (renderingScene cast path).run s = (.error e, s') → s' = s) ∧
      ∀ start s', s.loadFile path = .ok (start, s') → s.Loads s' path start := by
  refine ⟨fun e s' h => ?_, fun e s' h => ?_, fun start s' h => ?_⟩
  · exact eq_of_settled ((run_loadingFile s path).symm.trans h)
  · exact eq_of_settled ((run_renderingScene cast s path).symm.trans h)
  · rw [loadFile_eq] at h
    cases hread : s.readDocument path with
    | error e =>
      rw [hread] at h
      cases h
    | ok read =>
      rw [hread] at h
      cases h
      exact loads_of_readDocument hread hs.nodup_imports hlibraries

/-- An engine with three documents, one of them without a scene. -/
def shelf : Session 1 Unit SkinAssets Unit :=
  solo {} (MemorySource.load
    [("hall.xml", "<stage><import namespace='ui'/><scene/></stage>"),
      ("yard.xml", "<stage><import namespace='fx'/><scene name='yard'/></stage>"),
      ("bare.xml", "<stage startScene='nowhere'/>")]) {} ()

/-- While the hall is on the stage, a document that is not on the shelf and one
that is: the hall stays there. -/
theorem loadFile_allOrNothing_shelf :
    let s := shelf.run (fun _ => {}) [.render "hall.xml"]
    s.Reachable ∧ (∀ library ∈ s.engine.libraries, library.OnlyRegisters) ∧
      s.engine.stage.scene.isSome = true ∧
      (loadingFile "gone.xml").run s = (.error (.notFound "gone.xml"), s) ∧
      (renderingScene (fun _ => {}) "gone.xml").run s = (.error (.notFound "gone.xml"), s) ∧
      ∃ s', s.loadFile "yard.xml" = .ok ("yard", s') ∧ s.Loads s' "yard.xml" "yard" := by
  intro s
  have hs : s.Reachable := (Reachable.fresh ..).run _ _
  obtain ⟨hdocuments, hgiven⟩ := (moves_run (fun _ => {}) shelf [.render "hall.xml"]).given
  have hlibraries : ∀ library ∈ s.engine.libraries, library.OnlyRegisters := by
    intro library hlibrary
    rw [hgiven] at hlibrary
    obtain rfl := List.mem_singleton.1 hlibrary
    exact Library.onlyRegisters_builtin
  have hgone : s.readDocument "gone.xml" = .error (.notFound "gone.xml") :=
    readDocument_congr hdocuments "gone.xml"
  have hload : ∃ r, (loadingFile "gone.xml").run s = (.error (.notFound "gone.xml"), r) := by
    rw [run_loadingFile, loadFile_error.2 hgone]
    exact ⟨_, rfl⟩
  have hrender : ∃ r, (renderingScene (fun _ => {}) "gone.xml").run s =
      (.error (.notFound "gone.xml"), r) := by
    rw [run_renderingScene, renderScene_error.2 ⟨by decide +kernel, hgone⟩]
    exact ⟨_, rfl⟩
  obtain ⟨r, hr⟩ := hload
  obtain ⟨r', hr'⟩ := hrender
  have hstart : (s.loadFile "yard.xml").toOption.any (·.1 == "yard") = true := by
    decide +kernel
  refine ⟨hs, hlibraries, by decide +kernel, ?_, ?_, ?_⟩
  · rw [hr, (loadFile_allOrNothing hs hlibraries (fun _ => {}) "gone.xml").1 _ _ hr]
  · rw [hr', (loadFile_allOrNothing hs hlibraries _ "gone.xml").2.1 _ _ hr']
  · cases hload : s.loadFile "yard.xml" with
    | error e =>
      rw [hload] at hstart
      cases hstart
    | ok loaded =>
      rw [hload] at hstart
      obtain ⟨start, s'⟩ := loaded
      obtain rfl := eq_of_beq hstart
      exact ⟨s', rfl, (loadFile_allOrNothing hs hlibraries (fun _ => {}) "yard.xml").2.2 _ _ hload⟩

/-- **A render that finds no scene changes nothing exactly when it had no
document to open, or one in use already.** The name of a scene is only looked
up; that of a document has it opened first. -/
theorem renderScene_unmoved_iff {cast : κ → Controller κ α γ} {s s' : Session n κ α γ}
    {name : String} (h : s.renderScene cast name = .ok (false, s')) :
    (s.engine.config.isDocumentName name = false → s' = s) ∧
      (s.Unmoved s' ↔ ∀ document start, s.engine.config.isDocumentName name = true →
        s.readDocument name = .ok (document, start) → s.InUse document) := by
  have hstays (r r' : Session n κ α γ) (wanted : String)
      (hshow : r.showScene cast wanted = (false, r')) : r' = r := by
    unfold showScene at hshow
    cases hfound : r.findScene? wanted with
    | none =>
      rw [hfound] at hshow
      cases hshow
      rfl
    | some found =>
      rw [hfound] at hshow
      cases hshow
  by_cases hd : s.engine.config.isDocumentName name = true
  · refine ⟨fun hscene => (by simp [hd] at hscene), ?_⟩
    rw [renderScene_of_document cast hd, loadFile_eq] at h
    cases hread : s.readDocument name with
    | error e =>
      rw [hread] at h
      cases h
    | ok read =>
      rw [hread] at h
      obtain rfl := hstays _ _ _ (Except.ok.inj h)
      rw [unmoved_openDocument_iff]
      refine ⟨fun huse document start _ hread' => ?_, fun hall => hall read.1 read.2 hd rfl⟩
      cases hread'
      exact huse
  · rw [renderScene_of_scene cast (Bool.eq_false_iff.2 hd)] at h
    obtain rfl := hstays _ _ _ (Except.ok.inj h)
    exact ⟨fun _ => rfl, iff_of_true ⟨rfl, rfl, rfl, rfl, rfl, rfl, rfl, rfl⟩
      fun _ _ hname => (hd hname).elim⟩

/-- The document without a scene is rendered, and found to have none. -/
theorem exists_renderScene_shelf : ∃ s', shelf.renderScene (fun _ => {}) "bare.xml" =
    .ok (false, s') ∧ s'.engine.phase = .parsed := by
  have hfalse : (shelf.renderScene (fun _ => {}) "bare.xml").toOption.any (fun rendered =>
      rendered.1 == false && decide (rendered.2.engine.phase = .parsed)) = true := by
    decide +kernel
  cases hrender : shelf.renderScene (fun _ => {}) "bare.xml" with
  | error e =>
    rw [hrender] at hfalse
    cases hfalse
  | ok rendered =>
    rw [hrender] at hfalse
    obtain ⟨found, s'⟩ := rendered
    simp only [Except.toOption, Option.any_some, Bool.and_eq_true, beq_iff_eq,
      decide_eq_true_eq] at hfalse
    obtain ⟨rfl, hphase⟩ := hfalse
    exact ⟨s', rfl, hphase⟩

/-- What is said of that render. -/
theorem renderScene_unmoved_iff_shelf :
    ∃ s', shelf.renderScene (fun _ => {}) "bare.xml" = .ok (false, s') ∧
      (shelf.Unmoved s' ↔ ∀ document start,
        shelf.engine.config.isDocumentName "bare.xml" = true →
        shelf.readDocument "bare.xml" = .ok (document, start) → shelf.InUse document) := by
  obtain ⟨s', hrender, -⟩ := exists_renderScene_shelf
  exact ⟨s', hrender, (renderScene_unmoved_iff hrender).2⟩

/-- **A render that finds no scene can change the engine**: the document
without a scene is in use afterwards. -/
theorem renderScene_not_unmoved : ∃ s', shelf.renderScene (fun _ => {}) "bare.xml" =
    .ok (false, s') ∧ ¬ shelf.Unmoved s' := by
  obtain ⟨s', hrender, hphase⟩ := exists_renderScene_shelf
  refine ⟨s', hrender, fun h => ?_⟩
  rw [h.phase] at hphase
  cases hphase

end Session

end SceneScript
