import SceneScript.Actor.Basic
import SceneScript.Markup.Literal
import SceneScript.Markup.Node
/-!
# Registry — directives

A directive says what markup means. An element directive turns a node into
an actor, or declines it; an attribute directive decorates an actor that was
built, and may put another one in its place. Directives run over a state of
the host's choosing, of type `σ`, through which they see and change the
services around them.

What a directive is told is its `Context`. The children of the node come
with their own resolution, to be run when the directive asks for it and as
often as it does.
-/

namespace SceneScript

open Markup (Node Attribute)

/-- A child of a node, with what turns it into an actor. -/
structure Offspring (σ : Type) where
  node : Node
  resolve : StateM σ (Option Actor)

/-- What a directive is told when it runs. -/
structure Context (σ : Type) where
  /-- The path of the directive's namespace, as it was written where the
  directive was found. -/
  home : String
  /-- The attribute that calls the directive, when one does by name. -/
  trigger : Option Attribute := none
  node : Node
  children : List (Offspring σ) := []

/-- Turns nodes into actors. -/
structure ElementDirective (σ : Type) where
  name : String
  /-- Whether the attribute directives of its namespace run on what it
  builds. -/
  common : Bool := true
  /-- The actor for a node, or `none` to decline it. -/
  build : Context σ → StateM σ (Option Actor)

/-- Decorates actors. -/
structure AttributeDirective (σ : Type) where
  name : String
  /-- The actor that takes the place of the given one. -/
  apply : Context σ → Actor → StateM σ Actor

namespace Context

variable {σ : Type}

/-- The value of an attribute as the directive sees it: that of the trigger
when its local name is the one asked for, else that of the plain attribute,
else that of the attribute in the directive's own namespace. -/
def value? (ctx : Context σ) (name : String) : Option String :=
  let triggered := ctx.trigger.filter fun a =>
    a.qualified?.any fun (_, part) => Text.alike part name
  let own := ctx.node.attributes.find? fun a => a.qualified? == some (ctx.home, name)
  (triggered.map (·.value)).or ((ctx.node.attr? name).or (own.map (·.value)))

/-- The value of an attribute as a finite number. -/
def number? (ctx : Context σ) (name : String) : Option Float32 :=
  (ctx.value? name).bind fun value => Decimal.readSingle? (Text.trim value)

/-- The value of an attribute as a truth value. -/
def truth? (ctx : Context σ) (name : String) : Option Bool :=
  (ctx.value? name).bind Markup.readBool?

/-- The value of an attribute as a colour. -/
def color? (ctx : Context σ) (name : String) : Option Color :=
  ((ctx.value? name).bind Markup.readColor?).map Color.ofBytes

end Context

namespace Offspring

variable {σ : Type}

/-- Resolves every child, in order, and keeps the actors. -/
def resolveEach : List (Offspring σ) → StateM σ (List Actor)
  | [] => pure []
  | child :: rest => do
    let actor ← child.resolve
    let actors ← resolveEach rest
    pure (actor.toList ++ actors)

/-- Resolves children in order up to the first that becomes an actor. -/
def resolveFirst : List (Offspring σ) → StateM σ (Option Actor)
  | [] => pure none
  | child :: rest => do
    match ← child.resolve with
    | some actor => pure (some actor)
    | none => resolveFirst rest

end Offspring

end SceneScript
