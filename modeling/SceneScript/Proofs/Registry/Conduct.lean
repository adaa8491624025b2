import SceneScript.Proofs.Registry.Ledger
/-!
# Registry — the conduct of a resolution

What resolving a node is meant to do, said without the search that does it.
`Decides` is the directive that has the say about a tag, as a place in the
order of the imports and of the registrations. `Triggers` reads off the
attributes of the node which calls they make, and `Decorates` lets calls run
one after the other. `Conducts` puts these together: the calls of directives
that resolving a node makes itself, in order, with its outcome.

A recorded registry writes down exactly what the conduct of the resolution
says (`resolve_recorded_iff`).
-/

namespace SceneScript

open Markup (Node Attribute)

variable {σ : Type}

/-- The first member of a list that has a name, in any case of ASCII letters. -/
structure FirstNamed {δ : Type} (nameOf : δ → String) (all : List δ) (name : String) (one : δ) :
    Prop where
  named : Text.alike (nameOf one) name = true
  place : ∃ earlier later, all = earlier ++ one :: later ∧
    ∀ other ∈ earlier, Text.alike (nameOf other) name = false

theorem firstNamed_iff {δ : Type} {nameOf : δ → String} {all : List δ} {name : String} {one : δ} :
    FirstNamed nameOf all name one ↔
      all.find? (fun other => Text.alike (nameOf other) name) = some one := by
  rw [List.find?_eq_some_iff_append]
  constructor
  · rintro ⟨hnamed, earlier, later, hall, hother⟩
    exact ⟨hnamed, earlier, later, hall, fun other h => by simp [hother other h]⟩
  · rintro ⟨hnamed, earlier, later, hall, hother⟩
    exact ⟨hnamed, earlier, later, hall, fun other h => by simpa using hother other h⟩

namespace Registry

/-- No import leads to an element directive of a tag. -/
def Unknown (registry : Registry σ) (imports : List String) (tag : String) : Prop :=
  ∀ home ∈ imports, ∀ ns, registry.find? home = some ns →
    ∀ directive ∈ ns.elements, Text.alike directive.name tag = false

/-- The element directive that has the say about a tag: the first of its
namespace, which is that of the first import that leads to one. -/
structure Decides (registry : Registry σ) (imports : List String) (tag : String)
    (found : Match σ) : Prop where
  exists_ns : registry.find? found.home = some found.ns
  first : FirstNamed ElementDirective.name found.ns.elements tag found.directive
  place : ∃ earlier later, imports = earlier ++ found.home :: later ∧ registry.Unknown earlier tag

/-- An attribute calls a directive: it is qualified by a path of an existing
namespace, other than the one under the path `folded`, and the directive is
the first of its local name there. -/
structure Names (registry : Registry σ) (folded : Option String) (trigger : Attribute)
    (home : String) (directive : AttributeDirective σ) : Prop where
  apart : ∀ path, folded = some path → segments home ≠ segments path
  leads : ∃ part ns, trigger.qualified? = some (home, part) ∧ registry.find? home = some ns ∧
    FirstNamed AttributeDirective.name ns.attributes part directive

/-- The calls that attributes make, in their order. -/
inductive Triggers (registry : Registry σ) (folded : Option String) (ctx : Context σ) :
    List Attribute → List (Call σ) → Prop
  | nil : Triggers registry folded ctx [] []
  | idle {trigger rest calls} (h : ∀ home directive, ¬ registry.Names folded trigger home directive)
      (hrest : Triggers registry folded ctx rest calls) :
      Triggers registry folded ctx (trigger :: rest) calls
  | call {trigger home directive rest calls} (h : registry.Names folded trigger home directive)
      (hrest : Triggers registry folded ctx rest calls) :
      Triggers registry folded ctx (trigger :: rest)
        (⟨{ ctx with home, trigger := some trigger }, directive⟩ :: calls)

end Registry

/-- Calls that run one after the other, each on the actor and the state that
the one before left. -/
inductive Decorates : List (Call σ) → Actor → σ → List (Deed σ) → Actor → σ → Prop
  | nil {actor w} : Decorates [] actor w [] actor w
  | cons {call rest actor w actor' w' deeds actor'' w''}
      (h : (call.directive.apply call.ctx actor).run w = (actor', w'))
      (hrest : Decorates rest actor' w' deeds actor'' w'') :
      Decorates (call :: rest) actor w (.apply call.directive call.ctx actor :: deeds) actor'' w''

/-- **The conduct of a resolution**: the calls it makes itself, the actor it
ends with, and the state. -/
inductive Registry.Conducts (registry : Registry σ) (imports : List String) (node : Node)
    (children : List (Offspring σ)) (w : σ) : List (Deed σ) → Option Actor → σ → Prop
  /-- Nothing knows the tag: nothing is called. -/
  | unknown (h : registry.Unknown imports node.name) :
      Conducts registry imports node children w [] none w
  /-- The directive declines: nothing else is called. -/
  | declined {found : Match σ} {w'} (h : registry.Decides imports node.name found)
      (hbuild : (found.directive.build { home := found.home, node, children }).run w = (none, w')) :
      Conducts registry imports node children w
        [.build found.directive { home := found.home, node, children }] none w'
  /-- The directive builds: the attribute directives of its namespace run, if
  it wants them, and then those that attributes of the node call. -/
  | built {found : Match σ} {actor w' calls deeds actor' w''}
      (h : registry.Decides imports node.name found)
      (hbuild : (found.directive.build { home := found.home, node, children }).run w =
        (some actor, w'))
      (hcalls : registry.Triggers (if found.directive.common then some found.home else none)
        { home := found.home, node, children } node.attributes calls)
      (hrun : Decorates
        ((if found.directive.common then
          found.ns.attributes.map (Call.mk { home := found.home, node, children }) else []) ++
          calls)
        actor w' deeds actor' w'') :
      Conducts registry imports node children w
        (.build found.directive { home := found.home, node, children } :: deeds) (some actor') w''

/-! ## The search keeps to the order -/

namespace Registry

/-- What an import leads to. -/
theorem match?_eq_findSome? (registry : Registry σ) (tag : String) (imports : List String) :
    registry.match? tag imports = imports.findSome? fun home =>
      (registry.find? home).bind fun ns => (ns.element? tag).map (Match.mk home ns) := by
  induction imports with
  | nil => rfl
  | cons home rest ih =>
    rw [match?, List.findSome?_cons, ih]
    cases (registry.find? home).bind fun ns => (ns.element? tag).map (Match.mk home ns) <;> rfl

theorem leads_eq_none_iff {registry : Registry σ} {tag home : String} :
    ((registry.find? home).bind fun ns => (ns.element? tag).map (Match.mk home ns)) = none ↔
      ∀ ns, registry.find? home = some ns →
        ∀ directive ∈ ns.elements, Text.alike directive.name tag = false := by
  cases registry.find? home <;> simp [Namespace.element?]

theorem leads_eq_some_iff {registry : Registry σ} {tag home : String} {found : Match σ} :
    ((registry.find? home).bind fun ns => (ns.element? tag).map (Match.mk home ns)) =
        some found ↔
      found.home = home ∧ registry.find? home = some found.ns ∧
        FirstNamed ElementDirective.name found.ns.elements tag found.directive := by
  simp only [firstNamed_iff, Option.bind_eq_some_iff, Option.map_eq_some_iff, Namespace.element?]
  constructor
  · rintro ⟨ns, hns, directive, hdirective, rfl⟩
    exact ⟨rfl, hns, hdirective⟩
  · rintro ⟨rfl, hns, hdirective⟩
    exact ⟨found.ns, hns, found.directive, hdirective, rfl⟩

theorem match?_eq_none_iff {registry : Registry σ} {tag : String} {imports : List String} :
    registry.match? tag imports = none ↔ registry.Unknown imports tag := by
  rw [match?_eq_findSome?, List.findSome?_eq_none_iff]
  exact forall₂_congr fun home _ => leads_eq_none_iff

/-- **The search finds what has the say.** -/
theorem match?_eq_some_iff {registry : Registry σ} {tag : String} {imports : List String}
    {found : Match σ} :
    registry.match? tag imports = some found ↔ registry.Decides imports tag found := by
  rw [match?_eq_findSome?, List.findSome?_eq_some_iff]
  constructor
  · rintro ⟨earlier, home, later, himports, hfound, hearlier⟩
    obtain ⟨rfl, hns, hfirst⟩ := leads_eq_some_iff.1 hfound
    exact ⟨hns, hfirst, earlier, later, himports,
      fun home hhome => leads_eq_none_iff.1 (hearlier home hhome)⟩
  · rintro ⟨hns, hfirst, earlier, later, himports, hearlier⟩
    exact ⟨earlier, found.home, later, himports, leads_eq_some_iff.2 ⟨rfl, hns, hfirst⟩,
      fun home hhome => leads_eq_none_iff.2 (hearlier home hhome)⟩

/-! ## Attributes and their calls -/

/-- **An attribute calls the directive it names.** -/
theorem qualifiedCall?_eq_some_iff {registry : Registry σ} {folded : Option String}
    {ctx : Context σ} {trigger : Attribute} {call : Call σ} :
    registry.qualifiedCall? (folded.map segments) ctx trigger = some call ↔
      ∃ home directive, registry.Names folded trigger home directive ∧
        call = ⟨{ ctx with home, trigger := some trigger }, directive⟩ := by
  have hapart : ∀ home : String, folded.map segments = some (segments home) ↔
      ¬ ∀ path, folded = some path → segments home ≠ segments path := by
    intro home
    cases folded with
    | none => simp
    | some path => simp [eq_comm]
  unfold qualifiedCall?
  simp only [Option.bind_eq_some_iff, Prod.exists]
  constructor
  · rintro ⟨home, part, hqualified, hcall⟩
    split at hcall
    next => cases hcall
    next hne =>
      obtain ⟨directive, hdirective, rfl⟩ := Option.map_eq_some_iff.1 hcall
      obtain ⟨ns, hns, hfirst⟩ := Option.bind_eq_some_iff.1 hdirective
      exact ⟨home, directive, ⟨not_not.1 (mt (hapart home).2 hne), part, ns, hqualified, hns,
        firstNamed_iff.2 hfirst⟩, rfl⟩
  · rintro ⟨home, directive, ⟨hne, part, ns, hqualified, hns, hfirst⟩, rfl⟩
    refine ⟨home, part, hqualified, ?_⟩
    rw [if_neg fun h => (hapart home).1 h hne, hns, Option.bind_some, Namespace.attribute?,
      firstNamed_iff.1 hfirst]
    rfl

/-- **The calls of the attributes are those they trigger.** -/
theorem triggers_iff {registry : Registry σ} {folded : Option String} {ctx : Context σ}
    {triggers : List Attribute} {calls : List (Call σ)} :
    registry.Triggers folded ctx triggers calls ↔
      triggers.filterMap (registry.qualifiedCall? (folded.map segments) ctx) = calls := by
  constructor
  · intro h
    induction h with
    | nil => rfl
    | idle h _ ih =>
      rw [List.filterMap_cons_none, ih]
      refine Option.eq_none_iff_forall_ne_some.2 fun call hcall => ?_
      obtain ⟨home, directive, hnames, -⟩ := qualifiedCall?_eq_some_iff.1 hcall
      exact h home directive hnames
    | call h _ ih =>
      rw [List.filterMap_cons_some (qualifiedCall?_eq_some_iff.2 ⟨_, _, h, rfl⟩), ih]
  · rintro rfl
    induction triggers with
    | nil => exact .nil
    | cons trigger rest ih =>
      cases hcall : registry.qualifiedCall? (folded.map segments) ctx trigger with
      | none =>
        rw [List.filterMap_cons_none hcall]
        refine .idle (fun home directive hnames => ?_) ih
        rw [qualifiedCall?_eq_some_iff.2 ⟨home, directive, hnames, rfl⟩] at hcall
        cases hcall
      | some call =>
        rw [List.filterMap_cons_some hcall]
        obtain ⟨home, directive, hnames, rfl⟩ := qualifiedCall?_eq_some_iff.1 hcall
        exact .call hnames ih

/-- Every call that attributes make is made by one of them. -/
theorem Triggers.exists_of_mem {registry : Registry σ} {folded : Option String} {ctx : Context σ}
    {triggers : List Attribute} {calls : List (Call σ)}
    (h : registry.Triggers folded ctx triggers calls) {call : Call σ} (hcall : call ∈ calls) :
    ∃ trigger ∈ triggers, ∃ home directive, registry.Names folded trigger home directive ∧
      call = ⟨{ ctx with home, trigger := some trigger }, directive⟩ := by
  rw [← triggers_iff.1 h, List.mem_filterMap] at hcall
  obtain ⟨trigger, hmem, htrigger⟩ := hcall
  exact ⟨trigger, hmem, qualifiedCall?_eq_some_iff.1 htrigger⟩

/-- A directive that an attribute calls by name sees the value of that
attribute under its own name. -/
theorem Names.value? {registry : Registry σ} {folded : Option String} {trigger : Attribute}
    {home : String} {directive : AttributeDirective σ}
    (h : registry.Names folded trigger home directive) (ctx : Context σ) :
    ({ ctx with home, trigger := some trigger } : Context σ).value? directive.name =
      some trigger.value := by
  obtain ⟨part, ns, hqualified, -, hfirst⟩ := h.leads
  have hpart : Text.alike part directive.name = true := by
    rw [Text.alike_comm]
    exact hfirst.named
  simp [Context.value?, hqualified, Option.filter, hpart]

end Registry

/-- **Calls run as they are meant to**, and leave their trace. -/
theorem decorates_iff {calls : List (Call σ)} {actor actor' : Actor} {w w' : σ}
    {deeds : List (Deed σ)} :
    Decorates calls actor w deeds actor' w' ↔
      (Call.runEach calls actor).run w = (actor', w') ∧ Call.trace calls actor w = deeds := by
  constructor
  · intro h
    induction h with
    | nil => exact ⟨rfl, rfl⟩
    | cons h _ ih =>
      rw [Call.runEach, StateT.run_bind, h, Call.trace, h]
      exact ⟨ih.1, congrArg _ ih.2⟩
  · rintro ⟨hrun, rfl⟩
    induction calls generalizing actor w with
    | nil =>
      cases hrun
      exact .nil
    | cons call rest ih =>
      rw [Call.runEach, StateT.run_bind] at hrun
      rw [Call.trace]
      exact .cons rfl (ih hrun)

/-- What was applied is one of the calls. -/
theorem Decorates.mem {calls : List (Call σ)} {actor actor' before : Actor} {w w' : σ}
    {deeds : List (Deed σ)} (h : Decorates calls actor w deeds actor' w')
    {directive : AttributeDirective σ} {ctx : Context σ}
    (hmem : Deed.apply directive ctx before ∈ deeds) : ⟨ctx, directive⟩ ∈ calls := by
  induction h with
  | nil => cases hmem
  | @cons call rest _ _ _ _ _ _ _ _ _ ih =>
    rcases List.mem_cons.1 hmem with hhead | hrest
    · cases hhead
      exact List.mem_cons_self
    · exact List.mem_cons_of_mem _ (ih hrest)

namespace Registry

/-- The calls on what a match built, as its conduct has them. -/
theorem calls_eq (registry : Registry σ) (found : Match σ) (ctx : Context σ) :
    registry.calls found ctx =
      (if found.directive.common then found.ns.attributes.map (Call.mk ctx) else []) ++
        ctx.node.attributes.filterMap (registry.qualifiedCall?
          ((if found.directive.common then some found.home else none).map segments) ctx) := by
  unfold calls
  cases found.directive.common <;> rfl

/-- **The enactment of a node conducts itself well**, and nothing else does. -/
theorem conducts_iff {registry : Registry σ} {imports : List String} {node : Node}
    {children : List (Offspring σ)} {w w' : σ} {deeds : List (Deed σ)} {actor : Option Actor} :
    registry.Conducts imports node children w deeds actor w' ↔
      registry.enactment imports node children w = (actor, w', deeds) := by
  constructor
  · intro h
    cases h with
    | unknown h =>
      rw [enactment, match?_eq_none_iff.2 h]
    | declined h hbuild =>
      rw [enactment, match?_eq_some_iff.2 h]
      simp only [hbuild]
    | built h hbuild hcalls hrun =>
      rw [enactment, match?_eq_some_iff.2 h]
      rw [← triggers_iff.1 hcalls, ← calls_eq registry _ ⟨_, none, node, children⟩] at hrun
      obtain ⟨hrun, htrace⟩ := decorates_iff.1 hrun
      simp only [hbuild, hrun, htrace]
  · intro h
    unfold enactment at h
    cases hmatch : registry.match? node.name imports with
    | none =>
      rw [hmatch] at h
      cases h
      exact .unknown (match?_eq_none_iff.1 hmatch)
    | some found =>
      rw [hmatch] at h
      have hdecides := match?_eq_some_iff.1 hmatch
      cases hbuild : (found.directive.build { home := found.home, node, children }).run w with
      | mk built wb =>
        simp only [hbuild] at h
        cases built with
        | none =>
          -- the directive declines, and no later import is asked
          cases h
          exact .declined hdecides hbuild
        | some actor₀ =>
          cases h
          refine .built hdecides hbuild (triggers_iff.2 rfl) ?_
          rw [← calls_eq registry found ⟨found.home, none, node, children⟩]
          exact decorates_iff.2 ⟨rfl, rfl⟩

/-- **Resolution does what it is meant to.** Whatever the directives of a
registry do, resolving a node through a recorded registry writes down the
calls of its conduct, in order and no others, and ends with its actor and its
state; without the recording the actor and the state are the same. A directive
that an attribute calls by name sees the value of that attribute. -/
theorem resolve_recorded_iff (registry : Registry σ) (imports : List String) (node : Node) (w : σ) :
    (∀ deeds actor w', (registry.recorded.resolve imports node).run (w, []) = (actor, w', deeds) ↔
      registry.Conducts imports node (registry.offspring imports node.children) w deeds actor w') ∧
    (∀ deeds actor w',
      registry.Conducts imports node (registry.offspring imports node.children) w deeds actor w' →
        (registry.resolve imports node).run w = (actor, w') ∧
        ∀ directive ctx before trigger, Deed.apply directive ctx before ∈ deeds →
          ctx.trigger = some trigger →
            trigger ∈ node.attributes ∧ ctx.value? directive.name = some trigger.value) := by
  refine ⟨fun deeds actor w' => ?_, fun deeds actor w' h => ⟨?_, ?_⟩⟩
  · rw [resolve_recorded, conducts_iff]
    rfl
  · have hdone := conducts_iff.1 h
    obtain ⟨name, attributes, text, children, position⟩ := node
    rw [resolve, enact_eq_enactment, hdone]
  · intro directive ctx before trigger hmem htrigger
    cases h with
    | unknown _ => cases hmem
    | declined _ _ => simp at hmem
    | built _ _ hcalls hrun =>
      have happlied := hrun.mem ((List.mem_cons.1 hmem).resolve_left (by simp))
      rcases List.mem_append.1 happlied with hcommon | hnamed
      · -- the attribute directives of the namespace run without a trigger
        split at hcommon
        · obtain ⟨_, _, hcall⟩ := List.mem_map.1 hcommon
          cases hcall
          cases htrigger
        · cases hcommon
      · obtain ⟨trigger', hmem', home, directive', hnames, hcall⟩ := hcalls.exists_of_mem hnamed
        cases hcall
        cases htrigger
        exact ⟨hmem', hnames.value? _⟩

/-- A registry with an element, an attribute for every element, and one to be
called by name. -/
def gallery : Registry Unit where
  root := "ROOT"
  nodes :=
    [([], {}),
      (["ui"], {
        elements := [{ name := "label", build := fun _ => pure (some (.label "" 1 false)) }]
        attributes := [{ name := "shade", apply := fun _ actor => pure actor }] }),
      (["fx"], { attributes := [{ name := "Shift", apply := fun _ actor => pure actor }] })]

/-- A node of the gallery that calls an attribute by name. -/
def placard : Node where
  name := "Label"
  attributes := [⟨"shift", "1"⟩, ⟨"fx:shift", "4"⟩, ⟨"ui:shade", "2"⟩]

/-- The placard is built, shaded and shifted, and the shift sees its own
value. -/
theorem resolve_recorded_iff_gallery :
    let run := (gallery.recorded.resolve ["no", "ui"] placard).run ((), [])
    run.2.2.length = 3 ∧
      gallery.Conducts ["no", "ui"] placard (gallery.offspring ["no", "ui"] placard.children) ()
        run.2.2 run.1 run.2.1 ∧
      (gallery.resolve ["no", "ui"] placard).run () = (run.1, run.2.1) ∧
      ∃ directive ctx before, Deed.apply directive ctx before ∈ run.2.2 ∧
        ctx.trigger = some ⟨"fx:shift", "4"⟩ ∧ ctx.value? directive.name = some "4" := by
  intro run
  have hconduct :=
    ((resolve_recorded_iff gallery ["no", "ui"] placard ()).1 run.2.2 run.1 run.2.1).1 rfl
  obtain ⟨hresolve, hvalue⟩ :=
    (resolve_recorded_iff gallery ["no", "ui"] placard ()).2 run.2.2 run.1 run.2.1 hconduct
  refine ⟨by decide +kernel, hconduct, hresolve, ?_⟩
  have hlast : (match run.2.2[2]? with
      | some (Deed.apply _ ctx _) => decide (ctx.trigger = some ⟨"fx:shift", "4"⟩)
      | _ => false) = true := by
    decide +kernel
  split at hlast
  next directive ctx before hdeed =>
    have hmem := List.mem_of_getElem? hdeed
    have htrigger := of_decide_eq_true hlast
    exact ⟨directive, ctx, before, hmem, htrigger, (hvalue _ _ _ _ hmem htrigger).2⟩
  next => cases hlast

end Registry

end SceneScript
