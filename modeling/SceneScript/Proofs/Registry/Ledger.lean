import Mathlib.Data.List.Forall2
import SceneScript.Registry.Resolve
/-!
# Registry — which directives are called

A registry is `recorded` when each of its directives, whatever it does, also
writes its call into a ledger that is carried along with the state. What a
directive has its children resolved to is the business of those children: it
is run aside, on a ledger that is thrown away. So what resolving a node adds
to the ledger are the calls that the resolution of this node makes itself,
and recording changes nothing else (`aside_resolve`).
-/

namespace SceneScript

open Markup (Node Attribute)

variable {σ : Type}

/-- A call of a directive, with what it was told. -/
inductive Deed (σ : Type) where
  | build (directive : ElementDirective σ) (ctx : Context σ)
  | apply (directive : AttributeDirective σ) (ctx : Context σ) (actor : Actor)

/-- A state with the calls that were made so far. -/
abbrev Ledger (σ : Type) := σ × List (Deed σ)

/-- Runs on a ledger of its own, which is thrown away. -/
def aside {β : Type} (run : StateM (Ledger σ) β) : StateM σ β := fun w =>
  pure ((run (w, [])).1, (run (w, [])).2.1)

/-- A child whose resolution is run aside. -/
def Offspring.aside (child : Offspring (Ledger σ)) : Offspring σ :=
  ⟨child.node, SceneScript.aside child.resolve⟩

/-- What a directive is told, where its children are resolved aside. -/
def Context.aside (ctx : Context (Ledger σ)) : Context σ where
  home := ctx.home
  trigger := ctx.trigger
  node := ctx.node
  children := ctx.children.map Offspring.aside

/-- The directive, with its calls recorded. -/
def ElementDirective.recorded (directive : ElementDirective σ) : ElementDirective (Ledger σ) where
  name := directive.name
  common := directive.common
  build ctx := fun (w, deeds) =>
    let (actor, w') := (directive.build ctx.aside).run w
    pure (actor, w', deeds ++ [.build directive ctx.aside])

/-- The directive, with its calls recorded. -/
def AttributeDirective.recorded (directive : AttributeDirective σ) :
    AttributeDirective (Ledger σ) where
  name := directive.name
  apply ctx actor := fun (w, deeds) =>
    let (actor', w') := (directive.apply ctx.aside actor).run w
    pure (actor', w', deeds ++ [.apply directive ctx.aside actor])

/-- The namespace, with the calls of its directives recorded. -/
def Namespace.recorded (ns : Namespace σ) : Namespace (Ledger σ) where
  elements := ns.elements.map ElementDirective.recorded
  attributes := ns.attributes.map AttributeDirective.recorded

/-- The registry, with the calls of its directives recorded. -/
def Registry.recorded (registry : Registry σ) : Registry (Ledger σ) where
  root := registry.root
  nodes := registry.nodes.map fun (path, ns) => (path, ns.recorded)

/-- The match, with the calls of its directives recorded. -/
def Match.recorded (found : Match σ) : Match (Ledger σ) where
  home := found.home
  ns := found.ns.recorded
  directive := found.directive.recorded

/-! ## Recording finds what is found without -/

theorem Namespace.element?_recorded (ns : Namespace σ) (name : String) :
    ns.recorded.element? name = (ns.element? name).map ElementDirective.recorded := by
  simp only [Namespace.element?, Namespace.recorded, List.find?_map]
  rfl

theorem Namespace.attribute?_recorded (ns : Namespace σ) (name : String) :
    ns.recorded.attribute? name = (ns.attribute? name).map AttributeDirective.recorded := by
  simp only [Namespace.attribute?, Namespace.recorded, List.find?_map]
  rfl

namespace Registry

theorem find?_recorded (registry : Registry σ) (path : String) :
    registry.recorded.find? path = (registry.find? path).map Namespace.recorded := by
  simp only [Registry.find?, Registry.node?, Registry.recorded, List.find?_map, Option.map_map]
  rfl

theorem match?_recorded (registry : Registry σ) (tag : String) (imports : List String) :
    registry.recorded.match? tag imports = (registry.match? tag imports).map Match.recorded := by
  induction imports with
  | nil => rfl
  | cons home rest ih =>
    rw [match?, match?, find?_recorded, ih]
    cases hns : registry.find? home with
    | none => rfl
    | some ns =>
      simp only [Option.map_some, Option.bind_some, Namespace.element?_recorded]
      cases ns.element? tag <;> rfl

end Registry

/-- A call in a recorded registry that records a call in the registry. -/
def Call.Records (call' : Call (Ledger σ)) (call : Call σ) : Prop :=
  call'.directive = call.directive.recorded ∧ call'.ctx.aside = call.ctx

/-- Calls that attribute directives make, one on what the other left. -/
def Call.trace : List (Call σ) → Actor → σ → List (Deed σ)
  | [], _, _ => []
  | call :: rest, actor, w =>
    let (actor', w') := (call.directive.apply call.ctx actor).run w
    .apply call.directive call.ctx actor :: trace rest actor' w'

/-- **Recorded calls run as the calls do**, and leave their trace. -/
theorem Call.runEach_recorded {calls' : List (Call (Ledger σ))} {calls : List (Call σ)}
    (h : List.Forall₂ Call.Records calls' calls) (actor : Actor) (w : σ) (deeds : List (Deed σ)) :
    (Call.runEach calls' actor).run (w, deeds) =
      (((Call.runEach calls actor).run w).1, ((Call.runEach calls actor).run w).2,
        deeds ++ Call.trace calls actor w) := by
  induction h generalizing actor w deeds with
  | nil =>
    rw [Call.trace, List.append_nil]
    rfl
  | @cons call' call rest' rest hcall _ ih =>
    obtain ⟨hdirective, hctx⟩ := hcall
    have hrun : (call'.directive.apply call'.ctx actor).run (w, deeds) =
        pure (((call.directive.apply call.ctx actor).run w).1,
          ((call.directive.apply call.ctx actor).run w).2,
          deeds ++ [.apply call.directive call.ctx actor]) := by
      rw [hdirective, ← hctx]
      rfl
    rw [Call.runEach, StateT.run_bind, hrun, pure_bind, ih, List.append_assoc]
    rfl

namespace Registry

/-- A qualified attribute makes the same call in the recorded registry. -/
theorem qualifiedCall?_recorded (registry : Registry σ) (folded : Option (List String))
    (ctx : Context (Ledger σ)) (trigger : Attribute) :
    Option.Rel Call.Records (registry.recorded.qualifiedCall? folded ctx trigger)
      (registry.qualifiedCall? folded ctx.aside trigger) := by
  unfold qualifiedCall?
  cases trigger.qualified? with
  | none => exact .none
  | some name =>
    obtain ⟨home, part⟩ := name
    simp only [Option.bind_some]
    split
    · exact .none
    · rw [find?_recorded]
      cases registry.find? home with
      | none => exact .none
      | some ns =>
        simp only [Option.map_some, Option.bind_some, Namespace.attribute?_recorded]
        cases ns.attribute? part with
        | none => exact .none
        | some directive => exact .some ⟨rfl, rfl⟩

/-- A match makes the same calls in the recorded registry. -/
theorem calls_recorded (registry : Registry σ) (found : Match σ) (ctx : Context (Ledger σ)) :
    List.Forall₂ Call.Records (registry.recorded.calls found.recorded ctx)
      (registry.calls found ctx.aside) := by
  refine List.rel_append ?_ ?_
  · change List.Forall₂ _ (if found.directive.common then _ else _) _
    split
    · simp only [Match.recorded, Namespace.recorded, List.map_map, List.forall₂_map_left_iff,
        List.forall₂_map_right_iff, List.forall₂_same]
      exact fun directive _ => ⟨rfl, rfl⟩
    · exact .nil
  · refine List.rel_filterMap (R := Eq) ?_ (List.forall₂_refl _)
    rintro trigger _ rfl
    exact qualifiedCall?_recorded registry _ ctx trigger

/-! ## Recording changes nothing -/

/-- What resolving a node comes to once it is known what has the say: the
actor, the state, and the calls made on the way. -/
def enactment (registry : Registry σ) (imports : List String) (node : Node)
    (children : List (Offspring σ)) (w : σ) : Option Actor × σ × List (Deed σ) :=
  match registry.match? node.name imports with
  | none => (none, w, [])
  | some found =>
    let ctx : Context σ := { home := found.home, node, children }
    match (found.directive.build ctx).run w with
    | (none, w') => (none, w', [.build found.directive ctx])
    | (some actor, w') =>
      let calls := registry.calls found ctx
      let (actor', w'') := (Call.runEach calls actor).run w'
      (some actor', w'', .build found.directive ctx :: Call.trace calls actor w')

theorem enact_eq_enactment (registry : Registry σ) (imports : List String) (node : Node)
    (children : List (Offspring σ)) (w : σ) :
    (registry.enact imports node children).run w =
      ((registry.enactment imports node children w).1,
        (registry.enactment imports node children w).2.1) := by
  unfold enact enactment
  cases registry.match? node.name imports with
  | none => rfl
  | some found =>
    simp only [StateT.run_bind]
    rcases (found.directive.build { home := found.home, node, children }).run w with
      ⟨_ | actor, w'⟩ <;> rfl

/-- **A recorded registry leaves the enactment in the ledger.** -/
theorem enact_recorded (registry : Registry σ) (imports : List String) (node : Node)
    (children : List (Offspring (Ledger σ))) (w : σ) (deeds : List (Deed σ)) :
    (registry.recorded.enact imports node children).run (w, deeds) =
      let done := registry.enactment imports node (children.map Offspring.aside) w
      (done.1, done.2.1, deeds ++ done.2.2) := by
  unfold enact enactment
  rw [match?_recorded]
  cases registry.match? node.name imports with
  | none =>
    simp only [Option.map_none, List.append_nil]
    rfl
  | some found =>
    simp only [Option.map_some, StateT.run_bind]
    have hbuild : (found.recorded.directive.build
        { home := found.recorded.home, node, children }).run (w, deeds) =
        let ctx : Context σ := { home := found.home, node, children := children.map .aside }
        let built := (found.directive.build ctx).run w
        pure (built.1, built.2, deeds ++ [.build found.directive ctx]) := rfl
    rw [hbuild, pure_bind]
    rcases (found.directive.build
      { home := found.home, node, children := children.map .aside }).run w with ⟨_ | actor, w'⟩
    · rfl
    · simp only [StateT.run_bind]
      rw [Call.runEach_recorded (calls_recorded registry found _)]
      simp only [List.append_assoc]
      rfl

variable (registry : Registry σ) (imports : List String)

mutual

/-- **Recording changes nothing**: run aside, the recorded registry resolves a
node as the registry does. -/
theorem aside_resolve : ∀ node : Node,
    aside (registry.recorded.resolve imports node) = registry.resolve imports node
  | ⟨name, attributes, text, children, position⟩ => by
    funext w
    have hrun := enact_recorded registry imports ⟨name, attributes, text, children, position⟩
      (registry.recorded.offspring imports children) w []
    rw [map_aside_offspring children] at hrun
    have hplain := enact_eq_enactment registry imports ⟨name, attributes, text, children, position⟩
      (registry.offspring imports children) w
    rw [resolve, resolve]
    exact (congrArg (fun run : Option Actor × Ledger σ => (run.1, run.2.1)) hrun).trans hplain.symm

/-- And its offspring are those of the registry. -/
theorem map_aside_offspring : ∀ nodes : List Node,
    (registry.recorded.offspring imports nodes).map Offspring.aside =
      registry.offspring imports nodes
  | [] => rfl
  | child :: rest => by
    rw [offspring, offspring, List.map_cons, map_aside_offspring rest, Offspring.aside,
      aside_resolve child]

end

/-- **What a recorded registry writes down** when it resolves a node is the
enactment of the node in the registry, and nothing of its children. -/
theorem resolve_recorded (node : Node) (w : σ) (deeds : List (Deed σ)) :
    (registry.recorded.resolve imports node).run (w, deeds) =
      let done := registry.enactment imports node (registry.offspring imports node.children) w
      (done.1, done.2.1, deeds ++ done.2.2) := by
  obtain ⟨name, attributes, text, children, position⟩ := node
  rw [resolve, enact_recorded, map_aside_offspring]

end Registry

end SceneScript
