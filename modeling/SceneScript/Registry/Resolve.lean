import SceneScript.Registry.Basic
/-!
# Registry — from nodes to actors

A node is resolved through a list of imported namespaces. The first element
directive of its name, imports before registrations, has the say: if it
declines, nothing else is asked. What it builds is decorated by the
attribute directives of its own namespace, and then by those that qualified
attributes of the node call by name (`Registry.calls`).
-/

namespace SceneScript

open Markup (Node Attribute)

/-- The element directive that has the say about a node, with the namespace it
is in and the import it was found by. -/
structure Match (σ : Type) where
  home : String
  ns : Namespace σ
  directive : ElementDirective σ

/-- An attribute directive and what it is told. -/
structure Call (σ : Type) where
  ctx : Context σ
  directive : AttributeDirective σ

/-- Runs attribute directives in order, each on what the one before left. -/
def Call.runEach {σ : Type} : List (Call σ) → Actor → StateM σ Actor
  | [], actor => pure actor
  | call :: rest, actor => do
    let actor ← call.directive.apply call.ctx actor
    runEach rest actor

namespace Registry

variable {σ : Type}

/-- The first element directive of a name, in the order of the imports. What is
no namespace of the registry is passed over. -/
def match? (registry : Registry σ) (tag : String) : List String → Option (Match σ)
  | [] => none
  | home :: rest =>
    match (registry.find? home).bind fun ns => (ns.element? tag).map (Match.mk home ns) with
    | some found => some found
    | none => registry.match? tag rest

/-- The call that a qualified attribute makes, if it names a namespace other
than the one under the segments `folded` and a directive of it. -/
def qualifiedCall? (registry : Registry σ) (folded : Option (List String)) (ctx : Context σ)
    (trigger : Attribute) : Option (Call σ) :=
  trigger.qualified?.bind fun (home, part) =>
    if folded = some (segments home) then none
    else ((registry.find? home).bind (·.attribute? part)).map fun directive =>
      ⟨{ ctx with home, trigger := some trigger }, directive⟩

/-- The calls on what a match built: the attribute directives of its
namespace, if it wants them, and those that attributes of the node name, in
the order of the attributes. -/
def calls (registry : Registry σ) (found : Match σ) (ctx : Context σ) : List (Call σ) :=
  let common := found.directive.common
  let folded := if common then some (segments found.home) else none
  (if common then found.ns.attributes.map (Call.mk ctx) else []) ++
    ctx.node.attributes.filterMap (registry.qualifiedCall? folded ctx)

/-- The actor for a node whose children can be resolved. -/
def enact (registry : Registry σ) (imports : List String) (node : Node)
    (children : List (Offspring σ)) : StateM σ (Option Actor) :=
  match registry.match? node.name imports with
  | none => pure none
  | some found => do
    let ctx : Context σ := { home := found.home, node, children }
    match ← found.directive.build ctx with
    | none => pure none
    | some actor => do
      let actor ← Call.runEach (registry.calls found ctx) actor
      pure (some actor)

mutual

/-- **Resolution**: the actor that a node becomes, if it becomes one. -/
def resolve (registry : Registry σ) (imports : List String) : Node → StateM σ (Option Actor)
  | ⟨name, attributes, text, children, position⟩ =>
    registry.enact imports ⟨name, attributes, text, children, position⟩
      (offspring registry imports children)

/-- Nodes with what turns them into actors. -/
def offspring (registry : Registry σ) (imports : List String) : List Node → List (Offspring σ)
  | [] => []
  | child :: rest => ⟨child, resolve registry imports child⟩ :: offspring registry imports rest

end

/-- The actors that the children of a node become. -/
def resolveChildren (registry : Registry σ) (imports : List String) (node : Node) :
    StateM σ (List Actor) :=
  Offspring.resolveEach (registry.offspring imports node.children)

end Registry

end SceneScript
