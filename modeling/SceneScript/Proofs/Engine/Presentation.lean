import SceneScript.Proofs.Engine.Keeping
import SceneScript.Proofs.Engine.Parts
import SceneScript.Proofs.Registry.Presentation
/-!
# Engine — the presentation of markup does not matter

An engine that has the built-in library and no other holds built-in directives
alone, whatever is asked of it (`holdsBuiltin_run`). It takes two presentations
of a tree for the same: they become the same actor, or neither becomes one
(`createActor_of_restyled`), and as scenes they are built the same
(`buildScene_of_restyled`).
-/

namespace SceneScript

open Markup (Node Restyled)

variable {n : Nat} {κ α γ : Type}

/-- The built-in library puts in built-in directives. -/
theorem Library.keeps_holdsBuiltin [AssetService α] (i : Fin n) :
    (builtin : Library n κ α γ).Keeps i (·.HoldsBuiltin builtinPath) :=
  fun _ _ h => (h.add _).create builtinName

namespace Session

/-- **An engine with the built-in library alone** holds nothing else, after
whatever commands. -/
theorem holdsBuiltin_run [AssetService α] {s : Session n κ α γ}
    (hfresh : s.registry.nodes = [([], {})])
    (hlibraries : ∀ library ∈ s.engine.libraries, library = .builtin)
    (cast : κ → Controller κ α γ) (commands : List (Command κ)) :
    (s.run cast commands).registry.HoldsBuiltin Library.builtinPath := by
  have hkeeps : ∀ library ∈ s.engine.libraries,
      library.Keeps s.id (·.HoldsBuiltin Library.builtinPath) := by
    intro library hmem
    rw [hlibraries library hmem]
    exact Library.keeps_holdsBuiltin s.id
  have hholds := Registry.holdsBuiltin_of_nodes hfresh Library.builtinPath
  exact (keeps_moves (moves_run cast s commands) hkeeps hholds).1.registry

variable {s : Session n κ α γ} {node node' : Node}

/-- **The presentation of the markup does not matter**: permuting attributes,
and changing the case of tags, at any depth, yields the same actor tree, and does
the same to the world. -/
theorem createActor_of_restyled
    (h : s.registry.HoldsBuiltin Library.builtinPath) (hdistinct : node.Distinct)
    (hrestyled : Restyled node node') : s.createActor node = s.createActor node' := by
  rw [createActor, createActor, h.resolve_eq s.engine.imports hrestyled hdistinct]

/-- An engine once it has loaded a document. -/
def furnished : Session 1 Unit SkinAssets Unit :=
  (solo {} (MemorySource.load [("index.xml", "<stage><scene/></stage>")])
    (SkinAssets.register {} "seal" ⟨8, 8⟩) ()).run (fun _ => {}) [.loadFile "index.xml"]

/-- A table that fades in, and moves aside by a qualified attribute. -/
def sheet : Node where
  name := "table"
  attributes := [⟨"color", "#ff000080"⟩, ⟨"fadeIn", "1"⟩, ⟨"stagecraft.scene2d:x", "5"⟩,
    ⟨"background", "#000000"⟩]
  children := [{ name := "label", attributes := [⟨"text", "a"⟩, ⟨"fontScale", "2"⟩] },
    { name := "row" }, { name := "image", attributes := [⟨"src", "seal"⟩] }]

/-- The same, written otherwise. -/
def sheetRestyled : Node where
  name := "Table"
  attributes := [⟨"background", "#000000"⟩, ⟨"stagecraft.scene2d:x", "5"⟩, ⟨"fadeIn", "1"⟩,
    ⟨"color", "#ff000080"⟩]
  children := [{ name := "LABEL", attributes := [⟨"fontScale", "2"⟩, ⟨"text", "a"⟩] },
    { name := "ROW" }, { name := "image", attributes := [⟨"src", "seal"⟩] }]

/-- A table, however it is written. -/
theorem createActor_of_restyled_sheet :
    furnished.registry.HoldsBuiltin Library.builtinPath ∧ sheet.Distinct ∧
      Restyled sheet sheetRestyled ∧ (furnished.createActor sheet).1.isSome = true ∧
      furnished.createActor sheet = furnished.createActor sheetRestyled := by
  have hholds : furnished.registry.HoldsBuiltin Library.builtinPath :=
    holdsBuiltin_run rfl (fun _ hmem => List.mem_singleton.1 hmem) _ _
  have hdistinct : sheet.Distinct := by
    simp [sheet, Node.Distinct, Markup.DistinctEach]
  have hrestyled : Restyled sheet sheetRestyled :=
    .mk rfl (by decide) rfl (.cons (.mk rfl (by decide) rfl .nil)
      (.cons (.mk rfl (by decide) rfl .nil) (.cons (.mk rfl (by decide) rfl .nil) .nil)))
  exact ⟨hholds, hdistinct, hrestyled, by decide +kernel,
    createActor_of_restyled hholds hdistinct hrestyled⟩

/-- A whole scene is built the same, too, however it is written. -/
theorem buildScene_of_restyled
    (h : s.registry.HoldsBuiltin Library.builtinPath) (hdistinct : node.Distinct)
    (hrestyled : Restyled node node') (name : String) :
    s.buildScene name node = s.buildScene name node' := by
  have hcontroller : node.attr? "controller" = node'.attr? "controller" := by
    obtain ⟨-, hperm, -, -⟩ := hrestyled
    exact Markup.attr?_eq_of_perm hperm hdistinct.attributes _
  rw [buildScene, buildScene, hcontroller,
    h.resolveChildren_eq s.engine.imports hrestyled hdistinct]

end Session

end SceneScript
