import SceneScript.Builtin.Attributes
import SceneScript.Builtin.Elements
/-!
# Registry — what directives leave alone

A directive may change the state it runs over, and of its children it knows
only how they are resolved. If no directive of a registry does anything to
some part of the state, as seen through `view`, then neither does resolving a
node, however the directives resolve its children
(`Registry.Leaves.resolve`). The built-in directives leave all of the state
alone (`Builtin.leaves_elements`, `Builtin.leaves_attributes`).
-/

namespace SceneScript

open Markup (Node Attribute)

variable {σ τ β : Type}

/-- A computation that does nothing to a part of the state. -/
def Leaves (view : σ → τ) (run : StateM σ β) : Prop :=
  ∀ w, view (run.run w).2 = view w

variable {view : σ → τ}

theorem leaves_pure (x : β) : Leaves view (pure x) := fun _ => rfl

theorem leaves_get : Leaves view (get : StateM σ σ) := fun _ => rfl

theorem Leaves.bind {ε : Type} {run : StateM σ β} {next : β → StateM σ ε} (h : Leaves view run)
    (hnext : ∀ x, Leaves view (next x)) : Leaves view (run >>= next) :=
  fun w => (hnext (run.run w).1 (run.run w).2).trans (h w)

/-! ## Directives -/

/-- Children whose resolution does nothing to it. -/
def Offspring.Leave (view : σ → τ) (children : List (Offspring σ)) : Prop :=
  ∀ child ∈ children, Leaves view child.resolve

/-- A directive that does nothing to it itself. -/
def ElementDirective.Leaves (view : σ → τ) (directive : ElementDirective σ) : Prop :=
  ∀ ctx, Offspring.Leave view ctx.children → SceneScript.Leaves view (directive.build ctx)

/-- A directive that does nothing to it itself. -/
def AttributeDirective.Leaves (view : σ → τ) (directive : AttributeDirective σ) : Prop :=
  ∀ ctx actor, Offspring.Leave view ctx.children →
    SceneScript.Leaves view (directive.apply ctx actor)

/-- A namespace whose directives do nothing to it. -/
structure Namespace.Leaves (view : σ → τ) (ns : Namespace σ) : Prop where
  elements : ∀ directive ∈ ns.elements, directive.Leaves view
  attributes : ∀ directive ∈ ns.attributes, directive.Leaves view

/-- A registry whose directives do nothing to it. -/
def Registry.Leaves (view : σ → τ) (registry : Registry σ) : Prop :=
  ∀ entry ∈ registry.nodes, entry.2.Leaves view

theorem Offspring.Leave.of_cons {child : Offspring σ} {rest : List (Offspring σ)}
    (h : Offspring.Leave view (child :: rest)) :
    Leaves view child.resolve ∧ Offspring.Leave view rest :=
  ⟨h child List.mem_cons_self, fun other hother => h other (List.mem_cons_of_mem _ hother)⟩

theorem Offspring.Leave.resolveEach {children : List (Offspring σ)}
    (h : Offspring.Leave view children) : Leaves view (Offspring.resolveEach children) := by
  induction children with
  | nil => exact leaves_pure _
  | cons child rest ih =>
    obtain ⟨hchild, hrest⟩ := h.of_cons
    exact hchild.bind fun _ => (ih hrest).bind fun _ => leaves_pure _

theorem Offspring.Leave.resolveFirst {children : List (Offspring σ)}
    (h : Offspring.Leave view children) : Leaves view (Offspring.resolveFirst children) := by
  induction children with
  | nil => exact leaves_pure _
  | cons child rest ih =>
    obtain ⟨hchild, hrest⟩ := h.of_cons
    refine hchild.bind fun found => ?_
    cases found with
    | none => exact ih hrest
    | some actor => exact leaves_pure _

/-! ## Resolution -/

/-- Calls one after the other do nothing to what each of them leaves alone. -/
theorem Call.leaves_runEach {calls : List (Call σ)}
    (h : ∀ call ∈ calls, call.directive.Leaves view ∧ Offspring.Leave view call.ctx.children)
    (actor : Actor) : Leaves view (Call.runEach calls actor) := by
  induction calls generalizing actor with
  | nil => exact leaves_pure _
  | cons call rest ih =>
    obtain ⟨hdirective, hchildren⟩ := h call List.mem_cons_self
    exact (hdirective call.ctx actor hchildren).bind
      (ih fun other hother => h other (List.mem_cons_of_mem _ hother))

namespace Registry

variable {registry : Registry σ}

theorem Leaves.find? (h : registry.Leaves view) {path : String} {ns : Namespace σ}
    (hns : registry.find? path = some ns) : ns.Leaves view := by
  obtain ⟨entry, hentry, rfl⟩ := Option.map_eq_some_iff.1 hns
  exact h entry (List.mem_of_find?_eq_some hentry)

/-- What has the say about a node, and what else is in its namespace. -/
theorem Leaves.match? (h : registry.Leaves view) {tag : String} {imports : List String}
    {found : Match σ} (hfound : registry.match? tag imports = some found) :
    found.directive.Leaves view ∧ found.ns.Leaves view := by
  induction imports with
  | nil => cases hfound
  | cons home rest ih =>
    rw [Registry.match?] at hfound
    split at hfound
    · -- this import has the element
      rename_i here heq
      cases hfound
      obtain ⟨ns, hns, hmap⟩ := Option.bind_eq_some_iff.1 heq
      obtain ⟨directive, helement, rfl⟩ := Option.map_eq_some_iff.1 hmap
      exact ⟨(h.find? hns).elements _ (List.mem_of_find?_eq_some helement), h.find? hns⟩
    · exact ih hfound

/-- The calls that a match makes, with the children it was given. -/
theorem Leaves.calls (h : registry.Leaves view) {found : Match σ} (hns : found.ns.Leaves view)
    {ctx : Context σ} (hchildren : Offspring.Leave view ctx.children) :
    ∀ call ∈ registry.calls found ctx,
      call.directive.Leaves view ∧ Offspring.Leave view call.ctx.children := by
  intro call hcall
  rcases List.mem_append.1 hcall with hcommon | hqualified
  · split at hcommon
    · obtain ⟨directive, hdirective, rfl⟩ := List.mem_map.1 hcommon
      exact ⟨hns.attributes directive hdirective, hchildren⟩
    · cases hcommon
  · obtain ⟨trigger, -, htrigger⟩ := List.mem_filterMap.1 hqualified
    obtain ⟨⟨home, part⟩, -, hcalled⟩ := Option.bind_eq_some_iff.1 htrigger
    obtain ⟨-, hcalled⟩ := Option.ite_none_left_eq_some.1 hcalled
    obtain ⟨directive, hdirective, rfl⟩ := Option.map_eq_some_iff.1 hcalled
    obtain ⟨ns, hfind, hattribute⟩ := Option.bind_eq_some_iff.1 hdirective
    exact ⟨(h.find? hfind).attributes _ (List.mem_of_find?_eq_some hattribute), hchildren⟩

theorem Leaves.enact (h : registry.Leaves view) (imports : List String) (node : Node)
    {children : List (Offspring σ)} (hchildren : Offspring.Leave view children) :
    SceneScript.Leaves view (registry.enact imports node children) := by
  unfold Registry.enact
  cases hfound : registry.match? node.name imports with
  | none => exact leaves_pure _
  | some found =>
    obtain ⟨hdirective, hns⟩ := h.match? hfound
    refine (hdirective _ hchildren).bind fun built => ?_
    cases built with
    | none => exact leaves_pure _
    | some actor =>
      exact (Call.leaves_runEach (h.calls hns hchildren) actor).bind fun _ => leaves_pure _

mutual

/-- **Resolution does nothing that no directive does.** -/
theorem Leaves.resolve (h : registry.Leaves view) (imports : List String) : ∀ node : Node,
    SceneScript.Leaves view (registry.resolve imports node)
  | ⟨name, attributes, text, children, position⟩ => by
    rw [Registry.resolve]
    exact h.enact imports _ (h.offspring imports children)

theorem Leaves.offspring (h : registry.Leaves view) (imports : List String) :
    ∀ nodes : List Node, Offspring.Leave view (registry.offspring imports nodes)
  | [] => fun _ hchild => by cases hchild
  | child :: rest => by
    rw [Registry.offspring]
    intro other hother
    rcases List.mem_cons.1 hother with rfl | hrest
    · exact h.resolve imports child
    · exact h.offspring imports rest other hrest

end

theorem Leaves.resolveChildren (h : registry.Leaves view) (imports : List String) (node : Node) :
    SceneScript.Leaves view (registry.resolveChildren imports node) :=
  (h.offspring imports node.children).resolveEach

/-! ## Growth -/

theorem Leaves.ensureFrom (h : registry.Leaves view) (done rest : List String) :
    (registry.ensureFrom done rest).Leaves view := by
  induction rest generalizing registry done with
  | nil => exact h
  | cons segment rest ih =>
    refine ih ?_ (done ++ [segment])
    unfold Registry.ensure
    split
    · exact h
    · intro entry hentry
      rcases List.mem_append.1 hentry with hold | hnew
      · exact h entry hold
      · obtain rfl := List.mem_singleton.1 hnew
        exact ⟨nofun, nofun⟩

/-- Creating namespaces adds no directive. -/
theorem Leaves.create (h : registry.Leaves view) (path : String) :
    (registry.create path).Leaves view :=
  h.ensureFrom [] (segments path)

/-- More directives that do nothing. -/
theorem Leaves.add (h : registry.Leaves view) (path : String)
    {elements : List (ElementDirective σ)} {attributes : List (AttributeDirective σ)}
    (helements : ∀ directive ∈ elements, directive.Leaves view)
    (hattributes : ∀ directive ∈ attributes, directive.Leaves view) :
    (registry.add path elements attributes).Leaves view := by
  intro entry hentry
  obtain ⟨⟨key, ns⟩, hold, rfl⟩ := List.mem_map.1 hentry
  have hns := h.create path _ hold
  simp only
  split
  · refine ⟨fun directive hdirective => ?_, fun directive hdirective => ?_⟩
    · exact (List.mem_append.1 hdirective).elim (hns.elements directive) (helements directive)
    · exact (List.mem_append.1 hdirective).elim (hns.attributes directive) (hattributes directive)
  · exact hns

end Registry

/-! ## The built-in directives -/

namespace Builtin

theorem leaves_fillTable {children : List (Offspring σ)} (h : Offspring.Leave view children)
    (table : Actor) : Leaves view (fillTable children table) := by
  induction children generalizing table with
  | nil => exact leaves_pure _
  | cons child rest ih =>
    obtain ⟨hchild, hrest⟩ := h.of_cons
    unfold fillTable
    split
    · exact ih hrest _
    · exact hchild.bind fun _ => ih hrest _

/-- **The built-in elements do nothing to the state.** -/
theorem leaves_elements (drawable? : σ → String → Option Drawable) :
    ∀ directive ∈ elements drawable?, directive.Leaves view := by
  have hplain (name : String) (build : Context σ → Actor) : (plain name build).Leaves view :=
    fun _ _ => leaves_pure _
  rw [elements]
  simp only [List.forall_mem_cons]
  refine ⟨hplain _ _, hplain _ _, hplain _ _, ?table, ?group, ?container, ?image,
    hplain _ _, hplain _ _, hplain _ _, hplain _ _, nofun⟩
  case table =>
    exact fun _ hchildren => (leaves_fillTable hchildren _).bind fun _ => leaves_pure _
  case group => exact fun _ hchildren => hchildren.resolveEach.bind fun _ => leaves_pure _
  case container => exact fun _ hchildren => hchildren.resolveFirst.bind fun _ => leaves_pure _
  case image => exact fun _ _ => leaves_get.bind fun _ => leaves_pure _

/-- **Nor do the built-in attributes.** -/
theorem leaves_attributes : ∀ directive ∈ (attributes : List (AttributeDirective σ)),
    directive.Leaves view := by
  have honBase (name : String) (edit : String → Base → Base) :
      (onBase name edit : AttributeDirective σ).Leaves view := fun _ _ _ => leaves_pure _
  rw [attributes]
  simp only [List.forall_mem_cons]
  exact ⟨honBase _ _, honBase _ _, honBase _ _, honBase _ _, honBase _ _, honBase _ _,
    honBase _ _, honBase _ _, honBase _ _, honBase _ _, honBase _ _, honBase _ _,
    fun _ _ _ => leaves_pure _, nofun⟩

end Builtin

end SceneScript
