import SceneScript.Proofs.Engine.Keeping
import SceneScript.Proofs.Registry.Images
/-!
# Engine — whose pictures are shown

The built-in library brings its element for images to a registry together with
the pictures of the engine it is put in for. Engines that share a registry all
find what came first, so they take their pictures from one engine: the one that
supplied the built-in namespace (`supplier?`, `offers_run`). At whatever moment a
scene is built, an image becomes what that engine has under its name at that
moment, and the engine that builds it has no say (`draws_of_supplier`).
-/

namespace SceneScript

variable {n : Nat} {κ α γ : Type}

/-! ## What libraries do to the built-in namespace -/

/-- The drawable of a name that an engine has. -/
def World.drawable? [AssetService α] (i : Fin n) (world : World n κ α γ) (name : String) :
    Option Drawable :=
  AssetService.drawable? (world.office i).assets name

namespace Library

/-- A library that leaves a namespace as it is. -/
def Spares (path : List String) (library : Library n κ α γ) : Prop :=
  ∀ i registry world,
    ((library.populate i registry world).1.create library.name).node? path = registry.node? path

variable [AssetService α]

/-- A library that is the built-in one, or spares its namespace. -/
def Courteous (library : Library n κ α γ) : Prop :=
  library = .builtin ∨ library.Spares builtinPath

/-- **The built-in library extends the built-in namespace** in the name of the
engine it is put in for. -/
theorem node?_builtin (i : Fin n) (registry : Registry (World n κ α γ))
    (world : World n κ α γ) :
    ((builtin.populate i registry world).1.create builtinName).node? builtinPath =
      some (((registry.node? builtinPath).getD {}).extend
        (Builtin.elements (World.drawable? i)) Builtin.attributes) := by
  have hcreated (other : Registry (World n κ α γ)) :
      (other.create builtinName).node? builtinPath =
        some ((other.node? builtinPath).getD {}) := by
    rw [Registry.node?_create, if_pos ⟨by decide, List.prefix_rfl⟩]
    cases other.node? builtinPath <;> rfl
  have hadded (elements : List (ElementDirective (World n κ α γ)))
      (attributes : List (AttributeDirective (World n κ α γ))) :
      (registry.add builtinName elements attributes).node? builtinPath =
        some (((registry.node? builtinPath).getD {}).extend elements attributes) := by
    have hsegments : segments builtinName = builtinPath := rfl
    rw [Registry.node?_add, hsegments, if_pos rfl, hcreated]
    rfl
  rw [hcreated, builtin, hadded]
  rfl

namespace Courteous

variable {library : Library n κ α γ}

/-- **What is offered goes on being offered**, whoever puts libraries in. -/
theorem keeps_offers (h : library.Courteous) (i : Fin n)
    (drawable? : World n κ α γ → String → Option Drawable) :
    library.Keeps i (·.Offers builtinPath drawable?) := by
  intro registry world hoffers
  rcases h with rfl | hspares
  · exact hoffers.extend (node?_builtin i registry world)
  · rwa [Registry.Offers, hspares]

/-- An engine that brings the built-in namespace in itself offers what it has. -/
theorem keeps_offers_self (h : library.Courteous) (i : Fin n) :
    library.Keeps i fun registry =>
      registry.Has builtinPath → registry.Offers builtinPath (World.drawable? i) := by
  intro registry world hoffers hhas
  by_cases hbefore : registry.Has builtinPath
  · exact h.keeps_offers i _ registry world (hoffers hbefore)
  · rcases h with rfl | hspares
    · exact Registry.offers_of_extended hbefore (node?_builtin i registry world)
    · rw [Registry.Has, hspares] at hhas
      exact absurd hhas hbefore

end Courteous

end Library

/-! ## Where the pictures come from -/

instance {σ : Type} (registry : Registry σ) (path : List String) :
    Decidable (registry.Has path) :=
  inferInstanceAs (Decidable (_ = true))

variable [AssetService α]

/-- Wherever a scene is built, and images with it, they become what engine `p`
has; that is what engine `j` has exactly where both have the same. -/
def Trace.Draws (p j : Fin n) (trace : Trace n κ α γ) : Prop :=
  ∀ name definition scene before after, .built name definition scene before after ∈ trace →
    before.registry.Builds Library.builtinPath before.engine.imports "image" → ∀ source world,
      before.registry.Draws before.engine.imports (World.drawable? p) source world ∧
        (before.registry.Draws before.engine.imports (World.drawable? j) source world ↔
          world.drawable? p source = world.drawable? j source)

namespace Theatre

variable {theatre : Theatre n κ α γ} {place : Fin n}

/-- The engine that supplies the built-in namespace of a registry: the one after
whose task it is there for the first time. -/
def supplier? (cast : κ → Controller κ α γ) (place : Fin n) :
    Theatre n κ α γ → List (Fin n × Task n κ α γ) → Option (Fin n)
  | _, [] => none
  | theatre, (i, task) :: rest =>
    if ((theatre.carryOut cast i task).registries.get place).Has Library.builtinPath then some i
    else (theatre.carryOut cast i task).supplier? cast place rest

/-- **The registry offers what its supplier has**, to the end of the run; as long
as there is none, the namespace does not exist. -/
theorem offers_run (cast : κ → Controller κ α γ) (h : theatre.Holds Library.Courteous)
    {tasks : List (Fin n × Task n κ α γ)} (htasks : ∀ task ∈ tasks, task.2.Of Library.Courteous)
    (hnone : ¬ (theatre.registries.get place).Has Library.builtinPath) :
    (∀ p, theatre.supplier? cast place tasks = some p →
        ((theatre.run cast tasks).registries.get place).Offers Library.builtinPath
          (World.drawable? p)) ∧
      (theatre.supplier? cast place tasks = none →
        ¬ ((theatre.run cast tasks).registries.get place).Has Library.builtinPath) := by
  induction tasks generalizing theatre with
  | nil => exact ⟨nofun, fun _ => hnone⟩
  | cons task rest ih =>
    obtain ⟨htask, hrest⟩ := List.forall_mem_cons.1 htasks
    have hnext := h.carryOut cast task.1 htask
    have hself := keeps_carryOut cast h task.1
      (fun _ hcourteous => hcourteous.keeps_offers_self task.1) task.2 place
      fun hhas => absurd hhas hnone
    by_cases hhas : ((theatre.carryOut cast task.1 task.2).registries.get place).Has
        Library.builtinPath
    · -- from here on every library keeps what this engine offers
      rw [supplier?, if_pos hhas]
      refine ⟨?_, nofun⟩
      rintro p ⟨⟩
      exact keeps_run cast hnext (fun i _ hcourteous => hcourteous.keeps_offers i _) hrest place
        (hself hhas)
    · rw [supplier?, if_neg hhas]
      exact ih hnext hrest hhas

/-- **Engines that share a registry show the pictures of one of them**: of the
one that supplied the built-in namespace, whatever the others have, and each its
own only where the two agree. An engine that finds no such namespace yet, or
supplied it itself, shows its own. -/
theorem draws_of_supplier (cast : κ → Controller κ α γ) (h : theatre.Holds Library.Courteous)
    {tasks : List (Fin n × Task n κ α γ)} (htasks : ∀ task ∈ tasks, task.2.Of Library.Courteous)
    {j : Fin n} (hnone : ¬ (theatre.registries.get (theatre.uses.get j)).Has Library.builtinPath)
    (command : Command κ) :
    Trace.Draws ((theatre.supplier? cast (theatre.uses.get j) tasks).getD j) j
      (((theatre.run cast tasks).session j).performTrace cast command) := by
  obtain ⟨hsome, hnot⟩ := offers_run cast h htasks hnone
  have hholds := h.run cast htasks
  have hregistry : ((theatre.run cast tasks).session j).registry =
      (theatre.run cast tasks).registries.get (theatre.uses.get j) := by
    rw [← uses_run cast theatre tasks]
    rfl
  have hmoves := Session.moves_perform cast ((theatre.run cast tasks).session j) command
  intro name definition scene before after hbuilt hbuilds source world
  have hoffers : before.registry.Offers Library.builtinPath
      (World.drawable? ((theatre.supplier? cast (theatre.uses.get j) tasks).getD j)) := by
    cases hsupplier : theatre.supplier? cast (theatre.uses.get j) tasks with
    | some p =>
      have hkept := Session.keeps_moves hmoves
        (fun library hmem => (hholds j library hmem).keeps_offers j (World.drawable? p))
        (hregistry ▸ hsome p hsupplier)
      exact (hkept.2 _ _ _ before after hbuilt).2
    | none =>
      have hkept := Session.keeps_moves hmoves
        (fun library hmem => (hholds j library hmem).keeps_offers_self j)
        fun hhas => absurd (hregistry ▸ hhas) (hnot hsupplier)
      exact (hkept.2 _ _ _ before after hbuilt).2 hbuilds.has
  have hdraws := hoffers.draws hbuilds source world
  exact ⟨hdraws, hdraws.iff_eq (World.drawable? j)⟩

/-- Two engines at one registry, with the assets they have. Their scene is an
image. -/
def gallery (first second : SkinAssets) : Theatre 2 Unit SkinAssets Unit :=
  { twins with
    engines := .replicate 2 (Engine.ofConfig {} (MemorySource.load [("index.xml",
      "<stage><scene><image src='seal'/></scene></stage>")]))
    world := { offices := #v[{ scope := {}, assets := first }, { scope := {}, assets := second }],
               host := () } }

/-- Assets with one drawable. -/
def sealAssets : SkinAssets :=
  SkinAssets.register {} "seal" ⟨8, 8⟩

/-- The kinds of the actors that an engine has on its stage. -/
def kindsOn (theatre : Theatre 2 Unit SkinAssets Unit) (i : Fin 2) : List String :=
  (theatre.session i).engine.stage.scene.toList.flatMap fun scene =>
    scene.actors.map (·.kind.name)

theorem holds_gallery (first second : SkinAssets) :
    (gallery first second).Holds Library.Courteous := fun
  | 0 => List.forall_mem_singleton.2 (.inl rfl)
  | 1 => List.forall_mem_singleton.2 (.inl rfl)

/-- The second engine shows what the first one has, if that one loads first. There
is a scene with images in it. -/
theorem draws_of_supplier_gallery :
    let theatre := gallery {} sealAssets
    let tasks : List (Fin 2 × Task 2 Unit SkinAssets Unit) := [(0, .loadLibraries)]
    let trace := ((theatre.run (fun _ => {}) tasks).session 1).performTrace (fun _ => {}) .loadStage
    theatre.Holds Library.Courteous ∧ (∀ task ∈ tasks, task.2.Of Library.Courteous) ∧
      ¬ (theatre.registries.get (theatre.uses.get 1)).Has Library.builtinPath ∧
      (theatre.supplier? (fun _ => {}) (theatre.uses.get 1) tasks).getD 1 = 0 ∧
      (trace.any fun happening => match happening with
        | .built _ _ _ before _ =>
          decide (before.registry.Builds Library.builtinPath before.engine.imports "image")
        | _ => false) = true ∧
      Trace.Draws 0 1 trace := by
  intro theatre tasks trace
  have hholds := holds_gallery {} sealAssets
  have htasks : ∀ task ∈ tasks, task.2.Of Library.Courteous :=
    List.forall_mem_singleton.2 trivial
  have hnone : ¬ (theatre.registries.get (theatre.uses.get 1)).Has Library.builtinPath := by
    decide +kernel
  have hsupplier : (theatre.supplier? (fun _ => {}) (theatre.uses.get 1) tasks).getD 1 = 0 := by
    decide +kernel
  have hdraws := draws_of_supplier (fun _ => {}) hholds htasks hnone .loadStage
  rw [hsupplier] at hdraws
  exact ⟨hholds, htasks, hnone, hsupplier, by decide +kernel, hdraws⟩

/-- **An engine does not show its own pictures**: after another one has loaded the
libraries, a drawable of its own is missing from its tree, one that only the other
has is there, and is gone once the other was disposed of. Had it loaded them itself,
it would show its own. -/
theorem not_draws_gallery :
    let cast : Unit → Controller Unit SkinAssets Unit := fun _ => {}
    let stage : Fin 2 × Task 2 Unit SkinAssets Unit := (1, .command .loadStage)
    let missing := (gallery {} sealAssets).run cast [(0, .loadLibraries), stage]
    let foreign := (gallery sealAssets {}).run cast [(0, .loadLibraries), stage]
    let gone := (gallery sealAssets sealAssets).run cast
      [(0, .loadLibraries), (0, .command .dispose), stage]
    let own := (gallery {} sealAssets).run cast [stage, (0, .loadLibraries)]
    ((missing.world.drawable? 1 "seal").isSome ∧ missing.kindsOn 1 = []) ∧
      ((foreign.world.drawable? 1 "seal").isNone ∧ foreign.kindsOn 1 = ["image"]) ∧
      ((gone.world.drawable? 1 "seal").isSome ∧ gone.kindsOn 1 = []) ∧
      (own.world.drawable? 1 "seal").isSome ∧ own.kindsOn 1 = ["image"] := by
  decide +kernel

end Theatre

end SceneScript
