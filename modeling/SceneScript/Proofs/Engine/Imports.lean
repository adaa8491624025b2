import SceneScript.Proofs.Engine.Loading
import SceneScript.Proofs.Engine.Parts
import SceneScript.Proofs.Registry.Selection
/-!
# Engine — imports and what is found through them

An engine imports namespaces by name and with the documents that it takes into use. Each
comes behind those imported before, so a tag that led somewhere goes on leading there
(`Session.match?_importAll`). With what a registry keeps while it grows this is all that
can happen to a selection that was made once: `selections_stay`.
-/

namespace SceneScript

/-- What makes an engine import namespaces. -/
inductive Importing where
  /-- The host imports one. -/
  | name (name : String)
  /-- A document is taken into use, with those that it declares. -/
  | document (document : Markup.Node)

variable {σ : Type} {n : Nat} {κ α γ : Type}

namespace Session

/-- The session after one more import. -/
def importMore (s : Session n κ α γ) : Importing → Session n κ α γ
  | .name name => { s with engine := s.engine.addImport name }
  | .document document => s.installDocument document

/-- The session after imports in order. -/
def importAll (s : Session n κ α γ) (steps : List Importing) : Session n κ α γ :=
  steps.foldl importMore s

theorem registry_importMore (s : Session n κ α γ) (step : Importing) :
    (s.importMore step).registry = s.registry := by
  cases step <;> rfl

theorem prefix_imports_importMore (s : Session n κ α γ) (step : Importing) :
    s.engine.imports <+: (s.importMore step).engine.imports := by
  cases step with
  | name name => exact Engine.prefix_imports_foldl [name] s.engine
  | document document =>
    rw [importMore, imports_installDocument]
    exact Engine.prefix_imports_foldl (importsOf document) s.engine

theorem registry_importAll (s : Session n κ α γ) (steps : List Importing) :
    (s.importAll steps).registry = s.registry := by
  induction steps generalizing s with
  | nil => rfl
  | cons step steps ih => exact (ih (s.importMore step)).trans (s.registry_importMore step)

/-- **The imports of before stay in front**, in their order. -/
theorem prefix_imports_importAll (s : Session n κ α γ) (steps : List Importing) :
    s.engine.imports <+: (s.importAll steps).engine.imports := by
  induction steps generalizing s with
  | nil => exact List.prefix_rfl
  | cons step steps ih => exact (s.prefix_imports_importMore step).trans (ih (s.importMore step))

/-- **A tag goes on leading where it led**: to the same import, and to the same directive
there. -/
theorem match?_importAll {s : Session n κ α γ} {tag : String}
    {found : Match (World n κ α γ)} (steps : List Importing)
    (hfound : s.registry.match? tag s.engine.imports = some found) :
    (s.importAll steps).registry.match? tag (s.importAll steps).engine.imports = some found := by
  rw [registry_importAll]
  exact Registry.match?_of_prefix (s.prefix_imports_importAll steps) hfound

end Session

/-- **What was selected stays selected.** Whatever is created in a registry and added to
it, a name that selected a directive in the namespace at a path selects the same one
afterwards, however it is written. And whatever an engine imports, its imports of before
stay in front, and a tag that one of them decided is decided by that import and that
directive. -/
theorem selections_stay :
    (∀ (registry : Registry σ) (steps : List (Growth σ)) (path name name' : String),
      Text.alike name name' = true →
        (∀ directive, registry.elementAt? path name = some directive →
          (registry.growAll steps).elementAt? path name' = some directive) ∧
        ∀ directive, registry.attributeAt? path name = some directive →
          (registry.growAll steps).attributeAt? path name' = some directive) ∧
    ∀ (s : Session n κ α γ) (steps : List Importing),
      s.engine.imports <+: (s.importAll steps).engine.imports ∧
        ∀ tag found, s.registry.match? tag s.engine.imports = some found →
          (s.importAll steps).registry.match? tag (s.importAll steps).engine.imports =
            some found := by
  constructor
  · intro registry steps path name name' hname
    have hkeeps := registry.keeps_growAll steps
    exact ⟨fun _ hselects => hkeeps.element? hname hselects,
      fun _ hselects => hkeeps.attribute? hname hselects⟩
  · intro s steps
    exact ⟨s.prefix_imports_importAll steps,
      fun _ _ hfound => Session.match?_importAll steps hfound⟩

/-- An element directive of a name. -/
def plate (name : String) : ElementDirective Unit where
  name
  build _ := pure none

/-- An attribute directive of a name. -/
def paint (name : String) : AttributeDirective Unit where
  name
  apply _ actor := pure actor

/-- A registry with one of each. -/
def stall : Registry Unit :=
  ({ root := "ROOT" } : Registry Unit).add "ui" [plate "label"] [paint "shade"]

/-- What is added to it, of the same letters. -/
def wares : List (Growth Unit) :=
  [.create "ui.x", .add "ui." [plate "LABEL"] [paint "SHADE"]]

/-- An engine with the built-in library put in. -/
def arcade : Session 1 Unit SkinAssets Unit :=
  (Session.solo {} (MemorySource.load []) {} ()).loadLibraries

/-- A document that imports another namespace. -/
def leaflet : Markup.Node where
  name := "stage"
  children := [{ name := "import", attributes := [⟨"namespace", "fx"⟩] }]

/-- What comes later changes nothing, be it of the same letters or another import. -/
theorem selections_stay_stall :
    (stall.growAll wares).elementAt? "ui" "Label" = some (plate "label") ∧
      (stall.growAll wares).attributeAt? ".ui" "Shade" = some (paint "shade") ∧
      ∃ found, arcade.registry.match? "LABEL" arcade.engine.imports = some found ∧
        (arcade.importAll [.name "fx", .document leaflet, .name "ui"]).registry.match? "LABEL"
          (arcade.importAll [.name "fx", .document leaflet, .name "ui"]).engine.imports =
            some found := by
  obtain ⟨hgrowth, himports⟩ :=
    selections_stay (σ := Unit) (n := 1) (κ := Unit) (α := SkinAssets) (γ := Unit)
  have helement : stall.elementAt? "ui" "label" = some (plate "label") := rfl
  have hattribute : stall.attributeAt? ".ui" "shade" = some (paint "shade") := rfl
  have hfound : (arcade.registry.match? "LABEL" arcade.engine.imports).isSome = true := by
    decide +kernel
  obtain ⟨found, hfound⟩ := Option.isSome_iff_exists.1 hfound
  refine ⟨?_, ?_, found, hfound, (himports arcade _).2 "LABEL" found hfound⟩
  · exact (hgrowth stall wares "ui" "label" "Label" (by decide)).1 _ helement
  · exact (hgrowth stall wares ".ui" "shade" "Shade" (by decide)).2 _ hattribute

end SceneScript
