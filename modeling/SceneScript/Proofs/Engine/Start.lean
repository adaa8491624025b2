import SceneScript.Proofs.Engine.Trace
import SceneScript.Proofs.Registry.Conduct
/-!
# Engine — the scene a stage starts with

Loading the stage answers with the name that the index document starts from.
Where that is the name of a document, the scene to be shown is the start scene
of that other document (`StartsAt`); it is shown if the document declares one
of the name, in any case of ASCII letters, and always where the name was read
off the first scene (`declares_of_startScene?`). What stands on the stage then
is the first scene of the name, and the engine knows it (`loadStage_shows`).
-/

namespace SceneScript

namespace Session

variable {n : Nat} {κ α γ : Type}

/-! ## The scenes of a document under their names -/

/-- The scenes that a document declares, each with the name it goes by. -/
def declaredScenes (document : Markup.Node) : List (String × Markup.Node) :=
  (scenesOf document).mapIdx fun i scene => (sceneName i scene, scene)

/-- A document declares a scene of a name, in any case of ASCII letters. -/
def Declares (document : Markup.Node) (wanted : String) : Prop :=
  ∃ scene ∈ declaredScenes document, Text.alike scene.1 wanted = true

/-- The search for a scene goes through the scenes in order. -/
theorem findSceneFrom?_eq_find? (wanted : String) (i : Nat) (scenes : List Markup.Node) :
    findSceneFrom? wanted i scenes =
      (scenes.mapIdx fun j scene => (sceneName (i + j) scene, scene)).find?
        fun scene => Text.alike scene.1 wanted := by
  induction scenes generalizing i with
  | nil => rfl
  | cons scene rest ih =>
    have hshift : (fun (j : Nat) (scene : Markup.Node) => (sceneName (i + (j + 1)) scene, scene)) =
        fun j scene => (sceneName (i + 1 + j) scene, scene) := by
      funext j scene
      rw [← Nat.add_assoc, Nat.add_right_comm]
    rw [findSceneFrom?, List.mapIdx_cons, List.find?_cons, Nat.add_zero, hshift, ← ih (i + 1)]
    cases Text.alike (sceneName i scene) wanted <;> rfl

/-- **What is found is the first scene of the name.** -/
theorem findScene?_eq_some_iff {s : Session n κ α γ} {document : Markup.Node}
    (hdocument : s.engine.document = some document) {wanted : String}
    {found : String × Markup.Node} :
    s.findScene? wanted = some found ↔
      FirstNamed Prod.fst (declaredScenes document) wanted found := by
  rw [findScene?, hdocument, Option.bind_some, findSceneFrom?_eq_find?, firstNamed_iff]
  simp only [Nat.zero_add, declaredScenes]

theorem exists_findScene? {s : Session n κ α γ} {document : Markup.Node}
    (hdocument : s.engine.document = some document) {wanted : String}
    (h : Declares document wanted) : ∃ found, s.findScene? wanted = some found := by
  obtain ⟨scene, hscene, halike⟩ := h
  rw [findScene?, hdocument, Option.bind_some, findSceneFrom?_eq_find?, ← Option.isSome_iff_exists,
    List.find?_isSome]
  simp only [Nat.zero_add]
  exact ⟨scene, hscene, halike⟩

/-- **A document that names no start scene declares the one it starts with.** -/
theorem declares_of_startScene? {document : Markup.Node} {start : String}
    (hnone : document.attr? "startScene" = none) (h : startScene? document = some start) :
    Declares document start := by
  rw [startScene?, hnone, Option.none_or] at h
  obtain ⟨scene, hhead, rfl⟩ := Option.map_eq_some_iff.1 h
  obtain ⟨rest, hscenes⟩ := List.head?_eq_some_iff.1 hhead
  refine ⟨(sceneName 0 scene, scene), ?_, Text.alike_refl _⟩
  rw [declaredScenes, hscenes, List.mapIdx_cons]
  exact List.mem_cons_self

/-! ## What is shown -/

/-- The scene that an arrival puts onto the stage goes by its name, where the
enter hook leaves it. -/
theorem name_entered {cast : κ → Controller κ α γ}
    (hcast : ∀ k cue, ((cast k).enter cue).scene.name = cue.scene.name) (s : Session n κ α γ)
    (name : String) (definition : Markup.Node) :
    (s.entered cast name definition).1.name = name := by
  have hbuilt : (s.assemble name definition).1.name = name := rfl
  unfold entered enter
  split
  · exact (hcast _ _).trans hbuilt
  · exact hbuilt

/-- A session shows the scene of a name: it is the first one that the document
in use declares, it was built from its definition, and the engine knows it. -/
def Shows (cast : κ → Controller κ α γ) (s : Session n κ α γ) (document : Markup.Node)
    (wanted : String) : Prop :=
  ∃ name definition scene, FirstNamed Prod.fst (declaredScenes document) wanted (name, definition) ∧
    s.engine.stage.scene = some scene ∧ scene.name = name ∧
    s.engine.lastRendered = some name ∧ s.engine.phase = .active ∧
    ∃ before : Session n κ α γ, s = before.switchScene cast name definition

/-- The document in use is that of before. -/
theorem document_showScene (cast : κ → Controller κ α γ) (s : Session n κ α γ) (wanted : String) :
    (s.showScene cast wanted).2.engine.document = s.engine.document := by
  unfold showScene
  split
  · rfl
  next name definition _ =>
    obtain ⟨pending, hswitched⟩ := exists_engine_switchScene cast s name definition
    rw [hswitched]

/-- **A scene that is declared is shown.** -/
theorem shows_showScene {cast : κ → Controller κ α γ}
    (hcast : ∀ k cue, ((cast k).enter cue).scene.name = cue.scene.name) {s : Session n κ α γ}
    {document : Markup.Node} (hdocument : s.engine.document = some document) {wanted : String}
    (h : Declares document wanted) : (s.showScene cast wanted).2.Shows cast document wanted := by
  obtain ⟨⟨name, definition⟩, hfound⟩ := exists_findScene? hdocument h
  obtain ⟨pending, hswitched⟩ := exists_engine_switchScene cast s name definition
  have hshow : (s.showScene cast wanted).2 = s.switchScene cast name definition := by
    rw [showScene, hfound]
  have hscene : (s.switchScene cast name definition).engine.stage.scene =
      (s.engine.stage.clear.attach ((s.leave cast).entered cast name definition).1).scene := by
    rw [hswitched]
  have hname := name_entered hcast (s.leave cast) name definition
  rw [hshow]
  refine ⟨name, definition, _, (findScene?_eq_some_iff hdocument).1 hfound, hscene, ?_, ?_, ?_,
    s, rfl⟩
  · exact (congrArg Show.name (show_place _ _)).trans hname
  · rw [hswitched]
  · rw [hswitched]

/-! ## Where a stage starts -/

/-- Loading the stage comes to a document and the name of a scene: those that
the index document starts with, or, where it starts with another document, those
of that one. -/
inductive StartsAt (s : Session n κ α γ) (start : String) : Markup.Node → String → Prop
  /-- The start scene is one of the index document. -/
  | here {document : Markup.Node} :
      s.readDocument s.engine.config.indexDocument = .ok (document, start) →
      s.engine.config.isDocumentName start = false → StartsAt s start document start
  /-- It is the name of a document of its own. -/
  | there {index document : Markup.Node} {wanted : String} :
      s.readDocument s.engine.config.indexDocument = .ok (index, start) →
      s.engine.config.isDocumentName start = true →
      s.readDocument start = .ok (document, wanted) → StartsAt s start document wanted

/-- What is read starts with a scene. -/
theorem startScene?_of_readDocument {s : Session n κ α γ} {path wanted : String}
    {document : Markup.Node} (h : s.readDocument path = .ok (document, wanted)) :
    startScene? document = some wanted := by
  rw [readDocument_eq] at h
  split at h
  · cases h
  · split at h
    · cases h
    · split at h
      next hstart =>
        cases h
        exact hstart
      next => cases h

theorem StartsAt.startScene? {s : Session n κ α γ} {start wanted : String} {document : Markup.Node}
    (h : s.StartsAt start document wanted) : startScene? document = some wanted := by
  cases h with
  | here hread _ => exact startScene?_of_readDocument hread
  | there _ _ hread => exact startScene?_of_readDocument hread

/-- The document at which a stage starts is taken into use, and its scene looked
for. -/
theorem StartsAt.of_loadStage [AssetService α] {cast : κ → Controller κ α γ}
    {s s' : Session n κ α γ} {start : String} (h : s.loadStage cast = (.ok start, s')) :
    ∃ document wanted, s.StartsAt start document wanted ∧
      ∃ r : Session n κ α γ, r.engine.document = some document ∧
        s' = (r.showScene cast wanted).2 := by
  cases hindex : s.readDocument s.engine.config.indexDocument with
  | error e =>
    rw [loadStage, hindex] at h
    cases h
  | ok read =>
    obtain ⟨index, name⟩ := read
    cases hloaded : AssetService.load (s.skinned index) with
    | error e =>
      unfold loadStage at h
      simp only [hindex] at h
      rw [← skinned, hloaded] at h
      cases h
    | ok assets =>
      rw [loadStage_of_loaded cast hindex hloaded] at h
      obtain ⟨imports, phase, hinstalled⟩ :=
        exists_installDocument (s.setAssets assets).loadLibraries index
      have hdocument : (s.installed index assets).engine.document = some index := by
        rw [installed, hinstalled]
      by_cases hd : s.engine.config.isDocumentName name = true
      · rw [renderScene_of_document cast (by rw [config_installed]; exact hd), loadFile_eq,
          readDocument_congr (documents_installed s index assets)] at h
        cases hread : s.readDocument name with
        | error e =>
          rw [hread] at h
          cases h
        | ok inner =>
          rw [hread] at h
          cases h
          obtain ⟨imports, hopened⟩ := exists_engine_openDocument (s.installed index assets) inner.1
          exact ⟨inner.1, inner.2, .there hindex hd hread, _, by rw [hopened], rfl⟩
      · have hd : s.engine.config.isDocumentName name = false := Bool.eq_false_iff.2 hd
        rw [renderScene_of_scene cast (by rw [config_installed]; exact hd)] at h
        cases h
        exact ⟨index, start, .here hindex hd, _, hdocument, rfl⟩

/-- **What loading the stage shows.** Where it succeeds, the document it starts
at is in use; if that document declares the scene it starts with, as it does
unless it names another one, the first scene of the name is on the stage. -/
theorem loadStage_shows [AssetService α] {cast : κ → Controller κ α γ}
    (hcast : ∀ k cue, ((cast k).enter cue).scene.name = cue.scene.name)
    {s s' : Session n κ α γ} {start : String} (h : s.loadStage cast = (.ok start, s')) :
    ∃ document wanted, s.StartsAt start document wanted ∧
      s'.engine.document = some document ∧
      (document.attr? "startScene" = none → Declares document wanted) ∧
      (Declares document wanted → s'.Shows cast document wanted) := by
  obtain ⟨document, wanted, hstarts, r, hr, rfl⟩ := StartsAt.of_loadStage h
  refine ⟨document, wanted, hstarts, (document_showScene cast r wanted).trans hr, ?_, ?_⟩
  · exact fun hnone => declares_of_startScene? hnone hstarts.startScene?
  · exact shows_showScene hcast hr

/-- An engine whose index document starts with another document. -/
def relay : Session 1 Unit SkinAssets Unit :=
  solo {} (MemorySource.load
    [("index.xml", "<stage startScene='cave.xml'><scene name='gate'/></stage>"),
      ("cave.xml",
        "<stage startScene='DEPTHS'><scene name='mouth'/><scene name='depths'/></stage>")])
    {} ()

/-- An engine whose index document starts with a scene it does not declare. -/
def adrift : Session 1 Unit SkinAssets Unit :=
  solo {} (MemorySource.load [("index.xml", "<stage startScene='nowhere'/>")]) {} ()

theorem eq_of_loadStage_toOption [AssetService α] (cast : κ → Controller κ α γ)
    (s : Session n κ α γ) (start : String) (h : (s.loadStage cast).1.toOption = some start) :
    s.loadStage cast = (.ok start, (s.loadStage cast).2) := by
  generalize s.loadStage cast = loaded at h ⊢
  obtain ⟨_ | name, s'⟩ := loaded
  · cases h
  · cases h
    rfl

/-- What is said of the relayed start. -/
theorem loadStage_shows_relay :
    ∃ s', relay.loadStage (fun _ => {}) = (.ok "cave.xml", s') ∧
      ∃ document wanted, relay.StartsAt "cave.xml" document wanted ∧
        s'.engine.document = some document ∧
        (document.attr? "startScene" = none → Declares document wanted) ∧
        (Declares document wanted → s'.Shows (fun _ => {}) document wanted) := by
  have hok := eq_of_loadStage_toOption (fun _ => {}) relay "cave.xml" (by decide +kernel)
  exact ⟨_, hok, loadStage_shows (fun _ _ => rfl) hok⟩

/-- **Loading the stage can answer with what is not shown**: the name of
another document, whose start scene is on the stage instead, and a name that no
scene has. -/
theorem loadStage_not_shown :
    (∃ s', relay.loadStage (fun _ => {}) = (.ok "cave.xml", s') ∧
      ∀ scene, s'.engine.stage.scene = some scene → Text.alike scene.name "cave.xml" = false) ∧
      ∃ s', adrift.loadStage (fun _ => {}) = (.ok "nowhere", s') ∧
        s'.engine.stage.scene = none := by
  have hrelay := eq_of_loadStage_toOption (fun _ => {}) relay "cave.xml" (by decide +kernel)
  have hadrift := eq_of_loadStage_toOption (fun _ => {}) adrift "nowhere" (by decide +kernel)
  have hdepths : (relay.loadStage fun _ => {}).2.engine.stage.scene.map Scene.name =
      some "depths" := by decide +kernel
  have hbare : (adrift.loadStage fun _ => {}).2.engine.stage.scene.map Scene.name = none := by
    decide +kernel
  refine ⟨⟨_, hrelay, fun scene hscene => ?_⟩, _, hadrift, Option.map_eq_none_iff.1 hbare⟩
  rw [hscene] at hdepths
  rw [Option.some.inj hdepths]
  decide

end Session

end SceneScript
