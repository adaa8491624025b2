import SceneScript.Proofs.Registry.Presentation
import SceneScript.Proofs.Registry.Tree
/-!
# Registry — what a name selects

A name selects the first directive of its letters in a namespace, and a tag the
first import that leads to one. Both are searches from the front, so they find the same
as before wherever something comes in at the end: a registry that grows keeps the
directives of each namespace in front (`Registry.Keeps`), and what a name selected it
goes on selecting, in any case of letters (`Keeps.element?`, `Keeps.attribute?`). And a
tag keeps the import that had the say when others are added behind it
(`match?_of_prefix`).
-/

namespace SceneScript

variable {σ : Type}

/-! ## Searches from the front -/

/-- **A search for a name** that ends in a list ends where it did in every longer one,
however the name is written. -/
theorem find?_alike_of_prefix {δ : Type} (nameOf : δ → String) {name name' : String}
    (hname : Text.alike name name' = true) {all more : List δ} (h : all <+: more) {one : δ}
    (hone : all.find? (fun one => Text.alike (nameOf one) name) = some one) :
    more.find? (fun one => Text.alike (nameOf one) name') = some one := by
  obtain ⟨rest, rfl⟩ := h
  have hsame : (fun one => Text.alike (nameOf one) name) =
      fun one => Text.alike (nameOf one) name' := by
    funext one
    rw [Text.alike_comm _ name, Text.alike_comm _ name', Text.alike_congr hname]
  rw [List.find?_append, ← hsame, hone, Option.some_or]

namespace Registry

variable {registry between after : Registry σ}

/-- The element directive that a name selects in the namespace at a path. -/
def elementAt? (registry : Registry σ) (path name : String) : Option (ElementDirective σ) :=
  (registry.find? path).bind (·.element? name)

/-- The attribute directive that a name selects in the namespace at a path. -/
def attributeAt? (registry : Registry σ) (path name : String) : Option (AttributeDirective σ) :=
  (registry.find? path).bind (·.attribute? name)

/-! ## Registries that grow -/

/-- A registry that has every namespace of another, with the directives that are there in
front and in their order. -/
def Keeps (registry after : Registry σ) : Prop :=
  ∀ path ns, registry.node? path = some ns → ∃ ns', after.node? path = some ns' ∧
    ns.elements <+: ns'.elements ∧ ns.attributes <+: ns'.attributes

namespace Keeps

theorem refl (registry : Registry σ) : registry.Keeps registry :=
  fun _ ns hns => ⟨ns, hns, List.prefix_rfl, List.prefix_rfl⟩

theorem trans (h : registry.Keeps between) (h' : between.Keeps after) : registry.Keeps after := by
  intro path ns hns
  obtain ⟨ns', hns', helements, hattributes⟩ := h path ns hns
  obtain ⟨ns'', hns'', helements', hattributes'⟩ := h' path ns' hns'
  exact ⟨ns'', hns'', helements.trans helements', hattributes.trans hattributes'⟩

/-- **A name goes on selecting the same element directive**, however it is written. -/
theorem element? (h : registry.Keeps after) {path name name' : String}
    (hname : Text.alike name name' = true) {directive : ElementDirective σ}
    (hselects : registry.elementAt? path name = some directive) :
    after.elementAt? path name' = some directive := by
  obtain ⟨ns, hns, hdirective⟩ := Option.bind_eq_some_iff.1 hselects
  obtain ⟨ns', hns', helements, -⟩ := h _ ns hns
  have hfound : ns'.element? name' = some directive :=
    find?_alike_of_prefix ElementDirective.name hname helements hdirective
  exact Option.bind_eq_some_iff.2 ⟨ns', hns', hfound⟩

/-- And the same attribute directive. -/
theorem attribute? (h : registry.Keeps after) {path name name' : String}
    (hname : Text.alike name name' = true) {directive : AttributeDirective σ}
    (hselects : registry.attributeAt? path name = some directive) :
    after.attributeAt? path name' = some directive := by
  obtain ⟨ns, hns, hdirective⟩ := Option.bind_eq_some_iff.1 hselects
  obtain ⟨ns', hns', -, hattributes⟩ := h _ ns hns
  have hfound : ns'.attribute? name' = some directive :=
    find?_alike_of_prefix AttributeDirective.name hname hattributes hdirective
  exact Option.bind_eq_some_iff.2 ⟨ns', hns', hfound⟩

end Keeps

/-- Namespaces are created where there are none. -/
theorem keeps_create (registry : Registry σ) (name : String) :
    registry.Keeps (registry.create name) := by
  intro path ns hns
  refine ⟨ns, ?_, List.prefix_rfl, List.prefix_rfl⟩
  rw [node?_create, hns, Option.some_or]

/-- Directives are added behind those that are there. -/
theorem keeps_grow (registry : Registry σ) (step : Growth σ) :
    registry.Keeps (registry.grow step) := by
  refine (keeps_create registry step.path).trans fun path ns hns => ?_
  rw [node?_grow]
  by_cases hpath : path = segments step.path
  · refine ⟨step.fill ns, by rw [if_pos hpath, hns, Option.map_some], ?_⟩
    cases step with
    | create name => exact ⟨List.prefix_rfl, List.prefix_rfl⟩
    | add name elements attributes => exact ⟨List.prefix_append _ _, List.prefix_append _ _⟩
  · exact ⟨ns, by rw [if_neg hpath, hns], List.prefix_rfl, List.prefix_rfl⟩

/-- **However a registry grows**, it keeps what it has. -/
theorem keeps_growAll (registry : Registry σ) (steps : List (Growth σ)) :
    registry.Keeps (registry.growAll steps) := by
  induction steps generalizing registry with
  | nil => exact .refl registry
  | cons step steps ih => exact (registry.keeps_grow step).trans (ih (registry.grow step))

/-! ## Imports that are added -/

/-- **A tag keeps the import that had the say**, and its directive, when imports are
added behind. -/
theorem match?_of_prefix {tag : String} {imports more : List String} (h : imports <+: more)
    {found : Match σ} (hfound : registry.match? tag imports = some found) :
    registry.match? tag more = some found := by
  obtain ⟨rest, rfl⟩ := h
  rw [match?_eq_findSome?] at hfound ⊢
  rw [List.findSome?_append, hfound, Option.some_or]

end Registry

end SceneScript
