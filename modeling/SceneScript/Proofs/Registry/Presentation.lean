import SceneScript.Builtin.Attributes
import SceneScript.Builtin.Elements
import SceneScript.Proofs.Markup.Presentation
import SceneScript.Proofs.Registry.Conduct
import SceneScript.Proofs.Registry.Growth
/-!
# Registry — presentations that are told apart

Two presentations of a tree give a directive contexts that are alike: what it
looks up has the same value, the text is the same, and each child becomes the
same actor under a tag of the same letters (`Context.Like`). A directive that
does the same in contexts that are alike is neutral, and all built-in directives
are (`Builtin.neutral_elements`, `Builtin.neutral_attributes`).

That is not all, for attributes that call directives of other namespaces do so
in their order. In a registry of built-in directives alone there are none to
call (`HoldsBuiltin.calls_eq`), so there resolution does not tell presentations
apart (`HoldsBuiltin.resolve_eq`).
-/

namespace SceneScript

open Markup (Node Attribute Restyled RestyledEach DistinctEach)

variable {σ : Type}

/-! ## Contexts that are alike -/

/-- Children that become the same, under tags of the same letters. -/
structure Offspring.Like (child child' : Offspring σ) : Prop where
  tag : Text.alike child.node.name child'.node.name = true
  resolve : child.resolve = child'.resolve

/-- Contexts in which the same is found. -/
structure Context.Like (ctx ctx' : Context σ) : Prop where
  value? : ∀ name, ctx.value? name = ctx'.value? name
  text : ctx.node.text = ctx'.node.text
  children : List.Forall₂ Offspring.Like ctx.children ctx'.children

/-- An element directive that does the same where it finds the same. -/
def ElementDirective.Neutral (directive : ElementDirective σ) : Prop :=
  ∀ {ctx ctx' : Context σ}, ctx.Like ctx' → directive.build ctx = directive.build ctx'

/-- An attribute directive that does the same where it finds the same. -/
def AttributeDirective.Neutral (directive : AttributeDirective σ) : Prop :=
  ∀ {ctx ctx' : Context σ}, ctx.Like ctx' → directive.apply ctx = directive.apply ctx'

/-- What nobody called sees the same in two presentations of its node. -/
theorem Context.like_of_perm {home : String} {node node' : Node}
    {children children' : List (Offspring σ)} (hnodup : (node.attributes.map (·.name)).Nodup)
    (hperm : node.attributes.Perm node'.attributes) (htext : node.text = node'.text)
    (hchildren : List.Forall₂ Offspring.Like children children') :
    Context.Like { home, node, children } { home, node := node', children := children' } where
  value? name := by
    simp only [Context.value?, Option.filter_none, Option.map_none, Option.none_or,
      Markup.attr?_eq_of_perm hperm hnodup, Markup.findQualified?_eq_of_perm hperm hnodup]
  text := htext
  children := hchildren

namespace Context.Like

variable {ctx ctx' : Context σ}

theorem number? (h : ctx.Like ctx') (name : String) : ctx.number? name = ctx'.number? name := by
  rw [Context.number?, Context.number?, h.value?]

theorem truth? (h : ctx.Like ctx') (name : String) : ctx.truth? name = ctx'.truth? name := by
  rw [Context.truth?, Context.truth?, h.value?]

theorem color? (h : ctx.Like ctx') (name : String) : ctx.color? name = ctx'.color? name := by
  rw [Context.color?, Context.color?, h.value?]

theorem textOf (h : ctx.Like ctx') : Builtin.textOf ctx = Builtin.textOf ctx' := by
  rw [Builtin.textOf, Builtin.textOf, h.value?, h.text]

end Context.Like

/-! ## The built-in directives -/

section Children

variable {children children' : List (Offspring σ)}

theorem Offspring.resolveEach_eq (h : List.Forall₂ Offspring.Like children children') :
    resolveEach children = resolveEach children' := by
  induction h with
  | nil => rfl
  | cons hchild _ ih => rw [resolveEach, resolveEach, hchild.resolve, ih]

theorem Offspring.resolveFirst_eq (h : List.Forall₂ Offspring.Like children children') :
    resolveFirst children = resolveFirst children' := by
  induction h with
  | nil => rfl
  | cons hchild _ ih => rw [resolveFirst, resolveFirst, hchild.resolve, ih]

theorem Builtin.fillTable_eq (h : List.Forall₂ Offspring.Like children children')
    (table : Actor) : fillTable children table = fillTable children' table := by
  induction h generalizing table with
  | nil => rfl
  | cons hchild _ ih =>
    simp only [fillTable, Text.alike_congr hchild.tag, hchild.resolve, ih]

end Children

namespace Builtin

/-- **The built-in elements are neutral.** -/
theorem neutral_elements (drawable? : σ → String → Option Drawable) :
    ∀ directive ∈ elements drawable?, directive.Neutral := by
  have hplain {name : String} {build : Context σ → Actor}
      (h : ∀ {ctx ctx' : Context σ}, ctx.Like ctx' → build ctx = build ctx') :
      (plain name build).Neutral := fun hlike => by simp only [plain, h hlike]
  have hbutton (name : String) : (plain name textButtonOf : ElementDirective σ).Neutral :=
    hplain fun h => by rw [textButtonOf, textButtonOf, h.textOf, h.truth?]
  simp only [elements, List.forall_mem_cons]
  refine ⟨hplain ?label, hbutton _, hbutton _, ?table, ?group, ?container, ?image,
    hplain ?checkBox, hplain ?textField, hplain ?slider, hplain ?progressBar, nofun⟩
  case label => exact fun h => by rw [labelOf, labelOf, h.textOf, h.number?, h.truth?]
  case table =>
    exact fun h => by simp only [tableOf, h.number?, fillTable_eq h.children]
  case group => exact fun h => by simp only [groupOf, Offspring.resolveEach_eq h.children]
  case container =>
    exact fun h => by simp only [containerOf, h.number?, Offspring.resolveFirst_eq h.children]
  case image => exact fun h => by simp only [imageOf, h.value?]
  case checkBox => exact fun h => by rw [checkBoxOf, checkBoxOf, h.textOf, h.truth?]
  case textField =>
    exact fun h => by simp only [textFieldOf, h.textOf, h.value?, h.truth?]
  case slider => exact fun h => by simp only [sliderOf, h.number?, h.truth?]
  case progressBar => exact fun h => by simp only [progressBarOf, h.number?]

/-- **So are the built-in attributes.** -/
theorem neutral_attributes :
    ∀ directive ∈ (attributes : List (AttributeDirective σ)), directive.Neutral := by
  have honBase (name : String) (edit : String → Base → Base) :
      (onBase name edit : AttributeDirective σ).Neutral := fun h => by
    simp only [onBase, h.value?]
  have hbackground : (background : AttributeDirective σ).Neutral := fun h => by
    simp only [background, h.color?]
  simp only [attributes, List.forall_mem_cons]
  exact ⟨honBase _ _, honBase _ _, honBase _ _, honBase _ _, honBase _ _, honBase _ _,
    honBase _ _, honBase _ _, honBase _ _, honBase _ _, honBase _ _, honBase _ _,
    hbackground, nofun⟩

/-- What the built-in elements build takes the built-in attributes. -/
theorem common_of_mem_elements (drawable? : σ → String → Option Drawable) :
    ∀ directive ∈ elements drawable?, directive.common = true := by
  simp [elements, plain]

end Builtin

/-! ## A registry of built-in directives -/

/-- A namespace of built-in directives alone, with whatever pictures. -/
structure Namespace.IsBuiltin (ns : Namespace σ) : Prop where
  elements : ∀ directive ∈ ns.elements, ∃ drawable?, directive ∈ Builtin.elements drawable?
  attributes : ∀ directive ∈ ns.attributes, directive ∈ Builtin.attributes

theorem Namespace.isBuiltin_empty : ({} : Namespace σ).IsBuiltin :=
  ⟨List.forall_mem_nil _, List.forall_mem_nil _⟩

/-- Such a namespace can be extended by more of them. -/
theorem Namespace.IsBuiltin.extend {ns : Namespace σ} (h : ns.IsBuiltin)
    (drawable? : σ → String → Option Drawable) :
    (ns.extend (Builtin.elements drawable?) Builtin.attributes).IsBuiltin where
  elements := List.forall_mem_append.2 ⟨h.elements, fun _ hmem => ⟨drawable?, hmem⟩⟩
  attributes := List.forall_mem_append.2 ⟨h.attributes, fun _ hmem => hmem⟩

namespace Registry

/-- A registry with nothing in it but built-in directives in one namespace. -/
structure HoldsBuiltin (registry : Registry σ) (place : List String) : Prop where
  there : ∀ ns, registry.node? place = some ns → ns.IsBuiltin
  elsewhere : ∀ path ns, path ≠ place → registry.node? path = some ns →
    ns.elements = [] ∧ ns.attributes = []

/-- At first there is nothing. -/
theorem holdsBuiltin_of_nodes {registry : Registry σ} (h : registry.nodes = [([], {})])
    (place : List String) : registry.HoldsBuiltin place := by
  have hempty : ∀ path ns, registry.node? path = some ns → ns = {} := by
    intro path ns hns
    rw [node?, h] at hns
    cases path with
    | nil => exact (Option.some.inj hns).symm
    | cons segment rest => simp at hns
  constructor
  · rintro ns hns
    rw [hempty _ _ hns]
    exact Namespace.isBuiltin_empty
  · rintro path ns - hns
    rw [hempty _ _ hns]
    exact ⟨rfl, rfl⟩

/-- Creating a namespace puts nothing in. -/
theorem HoldsBuiltin.create {registry : Registry σ} {place : List String}
    (h : registry.HoldsBuiltin place) (name : String) :
    (registry.create name).HoldsBuiltin place := by
  have hcases : ∀ path ns, (registry.create name).node? path = some ns →
      registry.node? path = some ns ∨ ns = {} := by
    intro path ns hns
    rw [node?_create, Option.or_eq_some_iff] at hns
    rcases hns with hold | ⟨-, hnew⟩
    · exact .inl hold
    · split at hnew
      · exact .inr (Option.some.inj hnew).symm
      · cases hnew
  constructor
  · intro ns hns
    rcases hcases _ _ hns with hold | rfl
    · exact h.there _ hold
    · exact Namespace.isBuiltin_empty
  · intro path ns hne hns
    rcases hcases _ _ hns with hold | rfl
    · exact h.elsewhere _ _ hne hold
    · exact ⟨rfl, rfl⟩

/-- The built-in directives can be added. -/
theorem HoldsBuiltin.add {registry : Registry σ} {name : String}
    (h : registry.HoldsBuiltin (segments name)) (drawable? : σ → String → Option Drawable) :
    (registry.add name (Builtin.elements drawable?) Builtin.attributes).HoldsBuiltin
      (segments name) := by
  have hcreated := h.create name
  constructor
  · intro ns hns
    rw [node?_add, if_pos rfl, Option.map_eq_some_iff] at hns
    obtain ⟨before, hbefore, rfl⟩ := hns
    exact (hcreated.there _ hbefore).extend drawable?
  · intro path ns hne hns
    rw [node?_add, if_neg hne] at hns
    exact hcreated.elsewhere _ _ hne hns

/-- Tags of the same letters find the same directive. -/
theorem match?_congr (registry : Registry σ) {tag tag' : String}
    (h : Text.alike tag tag' = true) (imports : List String) :
    registry.match? tag imports = registry.match? tag' imports := by
  have helement (ns : Namespace σ) : ns.element? tag = ns.element? tag' := by
    simp only [Namespace.element?, Text.alike_comm _ tag, Text.alike_comm _ tag',
      Text.alike_congr h]
  simp only [match?_eq_findSome?, helement]

variable {registry : Registry σ} {place : List String}

/-- What has the say about a node is built-in, and in the one namespace. -/
theorem HoldsBuiltin.of_match? (h : registry.HoldsBuiltin place) {tag : String}
    {imports : List String} {found : Match σ}
    (hfound : registry.match? tag imports = some found) :
    segments found.home = place ∧ found.ns.IsBuiltin ∧ found.directive ∈ found.ns.elements := by
  have hdecides := match?_eq_some_iff.1 hfound
  obtain ⟨earlier, later, hall, -⟩ := hdecides.first.place
  have hmem : found.directive ∈ found.ns.elements := by simp [hall]
  have hplace : segments found.home = place := by
    by_contra hne
    rw [(h.elsewhere _ _ hne hdecides.exists_ns).1] at hmem
    cases hmem
  exact ⟨hplace, h.there _ (hplace ▸ hdecides.exists_ns), hmem⟩

/-- **No attribute calls anything**: all directives there are run anyway. -/
theorem HoldsBuiltin.calls_eq (h : registry.HoldsBuiltin place) {tag : String}
    {imports : List String} {found : Match σ}
    (hfound : registry.match? tag imports = some found) (ctx : Context σ) :
    registry.calls found ctx = found.ns.attributes.map (Call.mk ctx) := by
  obtain ⟨hplace, hns, hmem⟩ := h.of_match? hfound
  obtain ⟨drawable?, hbuiltin⟩ := hns.elements _ hmem
  have hcommon := Builtin.common_of_mem_elements drawable? _ hbuiltin
  have hnone : ∀ a ∈ ctx.node.attributes,
      registry.qualifiedCall? (some place) ctx a = none := by
    intro a _
    rw [qualifiedCall?, Option.bind_eq_none_iff]
    rintro ⟨home, part⟩ -
    simp only [Option.some.injEq, ite_eq_left_iff, Option.map_eq_none_iff,
      Option.bind_eq_none_iff]
    intro hne ns hhome
    rw [Namespace.attribute?, (h.elsewhere _ _ (Ne.symm hne) hhome).2, List.find?_nil]
  simp only [calls, hcommon, if_true, hplace, List.filterMap_eq_nil_iff.2 hnone, List.append_nil]

theorem runEach_map_eq {directives : List (AttributeDirective σ)}
    (h : ∀ directive ∈ directives, directive.Neutral) {ctx ctx' : Context σ}
    (hlike : ctx.Like ctx') (actor : Actor) :
    Call.runEach (directives.map (Call.mk ctx)) actor =
      Call.runEach (directives.map (Call.mk ctx')) actor := by
  induction directives generalizing actor with
  | nil => rfl
  | cons directive rest ih =>
    obtain ⟨hdirective, hrest⟩ := List.forall_mem_cons.1 h
    simp only [List.map_cons, Call.runEach, hdirective hlike, ih hrest]

/-- A node becomes the same actor in two presentations, if its children do. -/
theorem HoldsBuiltin.enact_eq (h : registry.HoldsBuiltin place) (imports : List String)
    {node node' : Node} (hnodup : (node.attributes.map (·.name)).Nodup)
    (htag : Text.alike node.name node'.name = true)
    (hperm : node.attributes.Perm node'.attributes) (htext : node.text = node'.text)
    {children children' : List (Offspring σ)}
    (hchildren : List.Forall₂ Offspring.Like children children') :
    registry.enact imports node children = registry.enact imports node' children' := by
  unfold enact
  rw [registry.match?_congr htag]
  cases hfound : registry.match? node'.name imports with
  | none => rfl
  | some found =>
    obtain ⟨-, hns, hmem⟩ := h.of_match? hfound
    obtain ⟨drawable?, hbuiltin⟩ := hns.elements _ hmem
    have hlike : Context.Like { home := found.home, node, children }
        { home := found.home, node := node', children := children' } :=
      Context.like_of_perm hnodup hperm htext hchildren
    have hruns : ∀ actor, Call.runEach (found.ns.attributes.map (Call.mk _)) actor =
        Call.runEach (found.ns.attributes.map (Call.mk _)) actor :=
      runEach_map_eq (fun _ hmem => Builtin.neutral_attributes _ (hns.attributes _ hmem)) hlike
    simp only [h.calls_eq hfound, Builtin.neutral_elements drawable? _ hbuiltin hlike, hruns]

mutual

/-- **Resolution does not tell presentations apart**, where all directives are
built-in. -/
theorem HoldsBuiltin.resolve_eq (h : registry.HoldsBuiltin place) (imports : List String) :
    ∀ {node node' : Node}, Restyled node node' → node.Distinct →
      registry.resolve imports node = registry.resolve imports node'
  | ⟨_, _, _, children, _⟩, ⟨_, _, _, children', _⟩, .mk tag attributes text later, hdistinct => by
    rw [Registry.resolve, Registry.resolve]
    exact h.enact_eq imports hdistinct.1 tag attributes text
      (HoldsBuiltin.offspring_like h imports later hdistinct.2)

theorem HoldsBuiltin.offspring_like (h : registry.HoldsBuiltin place) (imports : List String) :
    ∀ {nodes nodes' : List Node}, RestyledEach nodes nodes' → DistinctEach nodes →
      List.Forall₂ Offspring.Like (registry.offspring imports nodes)
        (registry.offspring imports nodes')
  | _, _, .nil, _ => by
    rw [Registry.offspring]
    exact .nil
  | _, _, .cons first later, hdistinct => by
    rw [Registry.offspring, Registry.offspring]
    have htag : Text.alike _ _ = true := match first with
      | .mk tag _ _ _ => tag
    exact .cons ⟨htag, h.resolve_eq imports first hdistinct.1⟩
      (h.offspring_like imports later hdistinct.2)

end

/-- So the children of a node become the same actors. -/
theorem HoldsBuiltin.resolveChildren_eq (h : registry.HoldsBuiltin place) (imports : List String)
    {node node' : Node} (hrestyled : Restyled node node') (hdistinct : node.Distinct) :
    registry.resolveChildren imports node = registry.resolveChildren imports node' := by
  obtain ⟨-, -, -, hchildren⟩ := hrestyled
  exact Offspring.resolveEach_eq (h.offspring_like imports hchildren hdistinct.children)

end Registry

end SceneScript
