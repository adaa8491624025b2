import SceneScript.Proofs.Engine.Switch
/-!
# Engine — what loading does, and what it leaves when it fails

A document is read before anything else happens, so a document that is
refused changes nothing (`loadFile_error`). Loading the stage does more: the
index document is read, the assets of its skin are loaded, the document is
taken into use, and its start scene is rendered. The first two steps are
undone when they fail. The last one can fail as well, since the start scene
may be the name of a document of its own, and by then the index document is
in use: `loadStage_untouched_iff` says exactly which failures leave a trace.
-/

namespace SceneScript

/-- A service whose skin is the one it was given last. -/
class LawfulAssetService (α : Type) [AssetService α] : Prop where
  skinPath_setSkinPath (path : Option String) (assets : α) :
    AssetService.skinPath (AssetService.setSkinPath path assets) = path

instance : LawfulAssetService SkinAssets where
  skinPath_setSkinPath _ _ := rfl

/-! ## Imports -/

namespace Engine

variable {n : Nat} {κ α γ : Type}

/-- Importing changes the imports and nothing else. -/
theorem exists_foldl_addImport (names : List String) (engine : Engine n κ α γ) :
    ∃ imports, names.foldl addImport engine = { engine with imports } := by
  induction names generalizing engine with
  | nil => exact ⟨engine.imports, rfl⟩
  | cons name rest ih =>
    obtain ⟨imports, h⟩ := ih (engine.addImport name)
    refine ⟨imports, ?_⟩
    rw [List.foldl_cons, h, addImport]
    split <;> rfl

/-- The imports of before stay in front. -/
theorem prefix_imports_foldl (names : List String) (engine : Engine n κ α γ) :
    engine.imports <+: (names.foldl addImport engine).imports := by
  induction names generalizing engine with
  | nil => exact List.prefix_rfl
  | cons name rest ih =>
    refine List.IsPrefix.trans ?_ (ih (engine.addImport name))
    rw [addImport]
    split
    · exact List.prefix_rfl
    · exact List.prefix_append _ _

theorem mem_imports_addImport (engine : Engine n κ α γ) (name : String) :
    name ∈ (engine.addImport name).imports := by
  rw [addImport]
  split
  next h => exact h
  next => simp

/-- What is imported in a row is imported at the end. -/
theorem mem_imports_foldl {names : List String} {name : String} (h : name ∈ names)
    (engine : Engine n κ α γ) : name ∈ (names.foldl addImport engine).imports := by
  induction names generalizing engine with
  | nil => cases h
  | cons first rest ih =>
    rcases List.mem_cons.1 h with rfl | hrest
    · exact (prefix_imports_foldl rest _).subset (mem_imports_addImport engine name)
    · exact ih hrest _

/-- **Importing changes nothing exactly when all is imported already.** -/
theorem imports_foldl_eq_iff (names : List String) (engine : Engine n κ α γ) :
    (names.foldl addImport engine).imports = engine.imports ↔
      ∀ name ∈ names, name ∈ engine.imports := by
  constructor
  · intro h name hname
    rw [← h]
    exact mem_imports_foldl hname engine
  · intro h
    induction names with
    | nil => rfl
    | cons name rest ih =>
      have hname : engine.addImport name = engine := if_pos (h name (by simp))
      rw [List.foldl_cons, hname]
      exact ih fun other hother => h other (List.mem_cons_of_mem _ hother)

end Engine

namespace Session

variable {n : Nat} {κ α γ : Type}

/-! ## Documents and libraries -/

/-- Reading a document in one equation: the three ways in which it is refused. -/
theorem readDocument_eq (s : Session n κ α γ) (path : String) :
    s.readDocument path = match s.engine.documents path with
      | .error e => .error e
      | .ok text =>
        match Markup.parse text with
        | .error e => .error (.parse (e.inDocument path))
        | .ok document =>
          match startScene? document with
          | some start => .ok (document, start)
          | none => .error (.noScenes path) := by
  unfold readDocument
  cases s.engine.documents path with
  | error e => rfl
  | ok text =>
    simp only [bind, Except.bind]
    cases Markup.parse text <;> rfl

/-- What is read depends on the source of documents alone. -/
theorem readDocument_congr {s t : Session n κ α γ} (h : s.engine.documents = t.engine.documents)
    (path : String) : s.readDocument path = t.readDocument path := by
  rw [readDocument, readDocument, h]

/-- The libraries go into the registry and may change the world; the engine
stays. -/
theorem loadLibraries_eq (s : Session n κ α γ) :
    s.loadLibraries = { s with
      registry := s.loadLibraries.registry, world := s.loadLibraries.world } := by
  unfold loadLibraries
  generalize s.engine.libraries = libraries
  induction libraries generalizing s with
  | nil => rfl
  | cons library rest ih =>
    have hone : s.loadLibrary library = { s with
        registry := (s.loadLibrary library).registry, world := (s.loadLibrary library).world } := by
      unfold loadLibrary
      split <;> rfl
    rw [List.foldl_cons, ih (s.loadLibrary library), hone]

@[simp] theorem engine_loadLibraries (s : Session n κ α γ) : s.loadLibraries.engine = s.engine := by
  rw [loadLibraries_eq]

/-- A document in use, and the imports and the phase that come with it. -/
theorem exists_installDocument (s : Session n κ α γ) (document : Markup.Node) :
    ∃ imports phase, s.installDocument document = { s with
      engine := { s.engine with imports, phase, document := some document } } := by
  obtain ⟨imports, h⟩ := Engine.exists_foldl_addImport (importsOf document) s.engine
  refine ⟨imports, if s.engine.stage.scene.isNone then .parsed else s.engine.phase, ?_⟩
  rw [installDocument, h]

theorem imports_installDocument (s : Session n κ α γ) (document : Markup.Node) :
    (s.installDocument document).engine.imports =
      ((importsOf document).foldl Engine.addImport s.engine).imports := rfl

/-- The session with the libraries loaded and a document in use. -/
def openDocument (s : Session n κ α γ) (document : Markup.Node) : Session n κ α γ :=
  s.loadLibraries.installDocument document

/-- What opening a document leaves of the engine. -/
theorem exists_engine_openDocument (s : Session n κ α γ) (document : Markup.Node) :
    ∃ imports, (s.openDocument document).engine =
      { s.engine with
        imports, document := some document
        phase := if s.engine.stage.scene.isNone then .parsed else s.engine.phase } := by
  obtain ⟨imports, h⟩ :=
    Engine.exists_foldl_addImport (importsOf document) s.loadLibraries.engine
  refine ⟨imports, ?_⟩
  rw [openDocument, installDocument, h, engine_loadLibraries]

/-- The world is what the libraries left. -/
@[simp] theorem world_openDocument (s : Session n κ α γ) (document : Markup.Node) :
    (s.openDocument document).world = s.loadLibraries.world := rfl

/-- Loading a document is reading it, and then opening what was read. -/
theorem loadFile_eq (s : Session n κ α γ) (path : String) :
    s.loadFile path = (s.readDocument path).map fun read => (read.2, s.openDocument read.1) := by
  unfold loadFile
  cases s.readDocument path <;> rfl

/-- A document that is refused is refused before anything changes. -/
theorem loadFile_error {s : Session n κ α γ} {path : String} {e : LoadError} :
    s.loadFile path = .error e ↔ s.readDocument path = .error e := by
  unfold loadFile
  cases s.readDocument path with
  | error e' => simp [bind, Except.bind]
  | ok read => simp [bind, Except.bind, pure, Except.pure]

/-- A render is refused exactly when its name is that of a document that
cannot be read. -/
theorem renderScene_error {cast : κ → Controller κ α γ} {s : Session n κ α γ} {name : String}
    {e : LoadError} : s.renderScene cast name = .error e ↔
      s.engine.config.isDocumentName name = true ∧ s.readDocument name = .error e := by
  by_cases hd : s.engine.config.isDocumentName name = true
  · rw [renderScene_of_document cast hd, ← loadFile_error]
    cases s.loadFile name <;> simp [Except.map, hd]
  · rw [renderScene_of_scene cast (Bool.eq_false_iff.2 hd)]
    simp [hd]

/-! ## Documents in use -/

/-- What a scene could notice of a document being opened stands as it stood. -/
structure Unmoved (s t : Session n κ α γ) : Prop where
  document : t.engine.document = s.engine.document
  imports : t.engine.imports = s.engine.imports
  /-- The stage, with the scene on it. -/
  stage : t.engine.stage = s.engine.stage
  values : t.scope.values = s.scope.values
  current : t.scope.current = s.scope.current
  lastRendered : t.engine.lastRendered = s.engine.lastRendered
  pending : t.engine.pending = s.engine.pending
  phase : t.engine.phase = s.engine.phase

/-- A document is in use, with all it imports, and the libraries have nothing
left to do to the scope. -/
structure InUse (s : Session n κ α γ) (document : Markup.Node) : Prop where
  document_eq : s.engine.document = some document
  imports : ∀ name ∈ importsOf document, name ∈ s.engine.imports
  values : s.loadLibraries.scope.values = s.scope.values
  current : s.loadLibraries.scope.current = s.scope.current
  phase : s.engine.stage.scene = none → s.engine.phase = .parsed

/-- **Opening a document changes nothing exactly when it is in use already.** -/
theorem unmoved_openDocument_iff {s : Session n κ α γ} {document : Markup.Node} :
    s.Unmoved (s.openDocument document) ↔ s.InUse document := by
  have himports : (s.openDocument document).engine.imports =
      ((importsOf document).foldl Engine.addImport s.engine).imports := by
    rw [openDocument, imports_installDocument, engine_loadLibraries]
  obtain ⟨imports, hopened⟩ := exists_engine_openDocument s document
  constructor
  · intro h
    refine ⟨?_, ?_, h.values, h.current, fun hnone => ?_⟩
    · rw [← h.document, hopened]
    · exact (Engine.imports_foldl_eq_iff _ _).1 (himports ▸ h.imports)
    · rw [← h.phase, hopened, hnone]
      rfl
  · intro h
    refine ⟨?_, ?_, ?_, h.values, h.current, ?_, ?_, ?_⟩
    · rw [h.document_eq, hopened]
    · exact himports.trans ((Engine.imports_foldl_eq_iff _ _).2 h.imports)
    · rw [hopened]
    · rw [hopened]
    · rw [hopened]
    · rw [hopened]
      cases hscene : s.engine.stage.scene with
      | none => exact (h.phase hscene).symm
      | some scene => rfl

/-! ## The stage -/

/-- A session with the index document in use: what loading the stage has done
when it comes to the start scene. -/
def installed (s : Session n κ α γ) (document : Markup.Node) (assets : α) : Session n κ α γ :=
  (s.setAssets assets).loadLibraries.installDocument document

theorem documents_installed (s : Session n κ α γ) (document : Markup.Node) (assets : α) :
    (s.installed document assets).engine.documents = s.engine.documents := by
  obtain ⟨imports, phase, h⟩ :=
    exists_installDocument (s.setAssets assets).loadLibraries document
  rw [installed, h, engine_loadLibraries]
  rfl

theorem config_installed (s : Session n κ α γ) (document : Markup.Node) (assets : α) :
    (s.installed document assets).engine.config = s.engine.config := by
  obtain ⟨imports, phase, h⟩ :=
    exists_installDocument (s.setAssets assets).loadLibraries document
  rw [installed, h, engine_loadLibraries]
  rfl

variable [AssetService α]

/-- The service of a session with the skin of a document, not yet loaded. -/
def skinned (s : Session n κ α γ) (document : Markup.Node) : α :=
  AssetService.setSkinPath (document.attr? "skin") s.assets

/-- The start scene of the index document is the name of a document, and that
document is refused. -/
structure StartRefused (s : Session n κ α γ) (document : Markup.Node) (start : String)
    (assets : α) (e : LoadError) : Prop where
  index : s.readDocument s.engine.config.indexDocument = .ok (document, start)
  loaded : AssetService.load (s.skinned document) = .ok assets
  named : s.engine.config.isDocumentName start = true
  refused : s.readDocument start = .error e

/-- Loading the stage comes to its start scene once the index document is read
and its assets are loaded. -/
theorem loadStage_of_loaded (cast : κ → Controller κ α γ) {s : Session n κ α γ}
    {document : Markup.Node} {start : String} {assets : α}
    (hindex : s.readDocument s.engine.config.indexDocument = .ok (document, start))
    (hloaded : AssetService.load (s.skinned document) = .ok assets) :
    s.loadStage cast = match (s.installed document assets).renderScene cast start with
      | .ok (_, s') => (.ok start, s')
      | .error e => (.error e, s.installed document assets) := by
  unfold loadStage
  simp only [hindex]
  rw [← skinned, hloaded]
  rfl

/-- A start scene that is refused leaves the index document in use. -/
theorem loadStage_of_startRefused (cast : κ → Controller κ α γ) {s : Session n κ α γ}
    {document : Markup.Node} {start : String} {assets : α} {e : LoadError}
    (h : s.StartRefused document start assets e) :
    s.loadStage cast = (.error e, s.installed document assets) := by
  have hrender : (s.installed document assets).renderScene cast start = .error e := by
    rw [renderScene_error, config_installed, readDocument_congr (documents_installed s _ _)]
    exact ⟨h.named, h.refused⟩
  rw [loadStage_of_loaded cast h.index h.loaded, hrender]

/-- **The three ways in which loading the stage fails.** -/
theorem loadStage_error {cast : κ → Controller κ α γ} {s s' : Session n κ α γ} {e : LoadError}
    (h : s.loadStage cast = (.error e, s')) :
    (s.readDocument s.engine.config.indexDocument = .error e ∧ s' = s) ∨
      (∃ document start failure,
        s.readDocument s.engine.config.indexDocument = .ok (document, start) ∧
        AssetService.load (s.skinned document) = .error failure ∧ e = .asset failure ∧
        s' = s.setAssets
          (AssetService.setSkinPath (AssetService.skinPath s.assets) (s.skinned document))) ∨
      ∃ document start assets, s.StartRefused document start assets e ∧
        s' = s.installed document assets := by
  cases hindex : s.readDocument s.engine.config.indexDocument with
  | error e' =>
    rw [loadStage, hindex] at h
    cases h
    exact .inl ⟨rfl, rfl⟩
  | ok read =>
    obtain ⟨document, start⟩ := read
    cases hloaded : AssetService.load (s.skinned document) with
    | error failure =>
      unfold loadStage at h
      simp only [hindex] at h
      rw [← skinned, hloaded] at h
      cases h
      exact .inr (.inl ⟨document, start, failure, rfl, hloaded, rfl, rfl⟩)
    | ok assets =>
      rw [loadStage_of_loaded cast hindex hloaded] at h
      cases hrender : (s.installed document assets).renderScene cast start with
      | ok rendered =>
        rw [hrender] at h
        cases h
      | error e' =>
        rw [hrender] at h
        cases h
        -- what was installed has no say in what can be read
        obtain ⟨hnamed, hrefused⟩ := renderScene_error.1 hrender
        rw [config_installed] at hnamed
        rw [readDocument_congr (documents_installed s _ _)] at hrefused
        exact .inr (.inr ⟨document, start, assets, ⟨hindex, hloaded, hnamed, hrefused⟩, rfl⟩)

/-! ## What a failure leaves -/

/-- Everything that loading the stage is about stands as it stood. -/
structure Untouched (s t : Session n κ α γ) : Prop where
  document : t.engine.document = s.engine.document
  imports : t.engine.imports = s.engine.imports
  registry : t.registry = s.registry
  skin : AssetService.skinPath t.assets = AssetService.skinPath s.assets
  /-- The stage, with the scene on it. -/
  stage : t.engine.stage = s.engine.stage
  values : t.scope.values = s.scope.values
  current : t.scope.current = s.scope.current
  lastRendered : t.engine.lastRendered = s.engine.lastRendered
  pending : t.engine.pending = s.engine.pending
  phase : t.engine.phase = s.engine.phase

/-- Taking a document into use, with assets that were loaded for it, would
change nothing: it is in use, and all it asks for is there. -/
structure Settled (s : Session n κ α γ) (document : Markup.Node) (assets : α) : Prop where
  inUse : s.engine.document = some document
  imports : ∀ name ∈ importsOf document, name ∈ s.engine.imports
  registry : (s.setAssets assets).loadLibraries.registry = s.registry
  skin : AssetService.skinPath (s.setAssets assets).loadLibraries.assets =
    AssetService.skinPath s.assets
  values : (s.setAssets assets).loadLibraries.scope.values = s.scope.values
  current : (s.setAssets assets).loadLibraries.scope.current = s.scope.current
  phase : s.engine.stage.scene = none → s.engine.phase = .parsed

theorem untouched_installed_iff {s : Session n κ α γ} {document : Markup.Node} {assets : α} :
    s.Untouched (s.installed document assets) ↔ s.Settled document assets := by
  have hopened : (s.setAssets assets).Unmoved ((s.setAssets assets).openDocument document) ↔
      (s.setAssets assets).InUse document := unmoved_openDocument_iff
  have hregistry : (s.installed document assets).registry =
      (s.setAssets assets).loadLibraries.registry := rfl
  have hassets : (s.installed document assets).assets =
      (s.setAssets assets).loadLibraries.assets := rfl
  constructor
  · intro h
    have huse : (s.setAssets assets).InUse document := by
      refine hopened.1 ⟨h.document, h.imports, h.stage, ?_, ?_, h.lastRendered, h.pending, h.phase⟩
      · rw [scope_setAssets]
        exact h.values
      · rw [scope_setAssets]
        exact h.current
    refine ⟨huse.document_eq, huse.imports, hregistry ▸ h.registry, hassets ▸ h.skin, ?_, ?_,
      huse.phase⟩
    · rw [huse.values, scope_setAssets]
    · rw [huse.current, scope_setAssets]
  · intro h
    have hmoved : (s.setAssets assets).Unmoved ((s.setAssets assets).openDocument document) := by
      refine hopened.2 ⟨h.inUse, h.imports, ?_, ?_, h.phase⟩
      · rw [h.values, scope_setAssets]
      · rw [h.current, scope_setAssets]
    refine ⟨hmoved.document, hmoved.imports, hregistry ▸ h.registry, hassets ▸ h.skin,
      hmoved.stage, ?_, ?_, hmoved.lastRendered, hmoved.pending, hmoved.phase⟩
    · rw [← scope_setAssets s assets]
      exact hmoved.values
    · rw [← scope_setAssets s assets]
      exact hmoved.current

/-- **What a failed load of the stage leaves.** All is as it was, unless the
index document could be read and its assets loaded and it is the start scene
that is refused; and then only if the index document was in use already, with
all it asks for. -/
theorem loadStage_untouched_iff [LawfulAssetService α] {cast : κ → Controller κ α γ}
    {s s' : Session n κ α γ} {e : LoadError} (h : s.loadStage cast = (.error e, s')) :
    s.Untouched s' ↔ ∀ document start assets, s.StartRefused document start assets e →
      s.Settled document assets := by
  rcases loadStage_error h with ⟨hindex, rfl⟩ |
    ⟨document, start, failure, hindex, hfailed, -, rfl⟩ |
    ⟨document, start, assets, hrefused, rfl⟩
  · -- the index document is refused, so no start scene is
    refine iff_of_true ⟨rfl, rfl, rfl, rfl, rfl, rfl, rfl, rfl, rfl, rfl⟩ ?_
    intro document start assets hrefused
    rw [hrefused.index] at hindex
    cases hindex
  · -- its assets cannot be loaded, and the skin of before is set again
    refine iff_of_true ⟨rfl, rfl, rfl, ?_, rfl, ?_, ?_, rfl, rfl, rfl⟩ ?_
    · rw [assets_setAssets, LawfulAssetService.skinPath_setSkinPath]
    · rw [scope_setAssets]
    · rw [scope_setAssets]
    · intro document' start' assets hrefused
      have hread := hindex.symm.trans hrefused.index
      cases hread
      rw [hrefused.loaded] at hfailed
      cases hfailed
  · rw [untouched_installed_iff]
    refine ⟨fun hsettled document' start' assets' hrefused' => ?_, fun hall => ?_⟩
    · have hread := hrefused.index.symm.trans hrefused'.index
      cases hread
      have hassets := hrefused.loaded.symm.trans hrefused'.loaded
      cases hassets
      exact hsettled
    · exact hall document start assets hrefused

/-- An engine whose index document starts with a document that is missing. -/
def stranded : Session 1 Unit SkinAssets Unit :=
  solo {} (MemorySource.load [("index.xml", "<stage startScene='gone.xml'/>")]) {} ()

theorem stranded_startRefused : ∃ document, stranded.StartRefused document "gone.xml"
    { loaded := true } (.notFound "gone.xml") := by
  have hread : (Markup.parse "<stage startScene='gone.xml'/>").toOption.any (fun document =>
      document.attr? "startScene" == some "gone.xml" && document.attr? "skin" == none) = true := by
    decide +kernel
  cases hparse : Markup.parse "<stage startScene='gone.xml'/>" with
  | error e =>
    rw [hparse] at hread
    cases hread
  | ok document =>
    rw [hparse] at hread
    simp only [Except.toOption, Option.any_some, Bool.and_eq_true, beq_iff_eq] at hread
    obtain ⟨hstart, hskin⟩ := hread
    refine ⟨document, ?_, ?_, by decide +kernel, rfl⟩
    · have hsource : stranded.engine.documents stranded.engine.config.indexDocument =
          .ok "<stage startScene='gone.xml'/>" := rfl
      rw [readDocument_eq, hsource]
      simp only [hparse, startScene?, hstart, Option.some_or]
    · rw [skinned, hskin]
      rfl

/-- The stranded engine fails, and so is told what it leaves. -/
theorem loadStage_untouched_iff_stranded : ∃ s',
    stranded.loadStage (fun _ => {}) = (.error (.notFound "gone.xml"), s') ∧
      (stranded.Untouched s' ↔ ∀ document start assets,
        stranded.StartRefused document start assets (.notFound "gone.xml") →
          stranded.Settled document assets) := by
  obtain ⟨document, hrefused⟩ := stranded_startRefused
  have h := loadStage_of_startRefused (fun _ => {}) hrefused
  exact ⟨_, h, loadStage_untouched_iff h⟩

/-- **Loading the stage is not atomic**: the start scene is missing, and the
index document is in use all the same. -/
theorem loadStage_not_atomic : ∃ e s', stranded.loadStage (fun _ => {}) = (.error e, s') ∧
    ¬ stranded.Untouched s' := by
  obtain ⟨document, hrefused⟩ := stranded_startRefused
  refine ⟨_, _, loadStage_of_startRefused _ hrefused, fun h => ?_⟩
  have hsettled := untouched_installed_iff.1 h
  cases hsettled.inUse

end Session

end SceneScript
