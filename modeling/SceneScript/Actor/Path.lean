import SceneScript.Actor.Basic
/-!
# Actors — paths through a tree

A path leads into a list of actors: the place of an actor in the list, the
place of the next among its children, and so on. Looking up a name goes
through the tree in painting order, an actor before what is inside it, and
stops at the first match. Hit testing goes the other way and asks the last
painted sibling first.
-/

namespace SceneScript
namespace Actor

/-- The first actor of a name, in painting order. -/
def find? (name : String) : List Actor → Option Actor
  | [] => none
  | actor@⟨base, _, children⟩ :: rest =>
    if base.name = some name then some actor
    else (find? name children).or (find? name rest)

/-- The path to the first actor of a name, where the list starts at place `i`. -/
def pathFrom? (name : String) (i : Nat) : List Actor → Option (List Nat)
  | [] => none
  | ⟨base, _, children⟩ :: rest =>
    if base.name = some name then some [i]
    else ((pathFrom? name 0 children).map (i :: ·)).or (pathFrom? name (i + 1) rest)

/-- The path to the first actor of a name. -/
def pathOf? (actors : List Actor) (name : String) : Option (List Nat) :=
  pathFrom? name 0 actors

/-- The actor at a path. -/
def atPath? (actors : List Actor) : List Nat → Option Actor
  | [] => none
  | i :: path => actors[i]?.bind fun actor =>
      if path = [] then some actor else atPath? actor.children path

/-- The actors with the one at a path edited. -/
def editAt (edit : Actor → Actor) (actors : List Actor) : List Nat → List Actor
  | [] => actors
  | i :: path => actors.modify i fun actor =>
      if path = [] then edit actor
      else { actor with children := editAt edit actor.children path }

/-- Whether an actor shows at a point of its parent. -/
def isHit (base : Base) (point : Vec2) : Bool :=
  base.visible && base.bounds.contains point

/-- The path to the last painted actor at a point, where the list starts at
place `i`. What is inside an actor counts only where the actor itself does. -/
def hitFrom? (i : Nat) (point : Vec2) : List Actor → Option (List Nat)
  | [] => none
  | ⟨base, _, children⟩ :: rest =>
    (hitFrom? (i + 1) point rest).or
      (if isHit base point then
        some (i :: (hitFrom? 0 (base.bounds.toLocal point) children).getD [])
      else none)

/-- The path to the last painted actor at a point. -/
def hit? (actors : List Actor) (point : Vec2) : Option (List Nat) :=
  hitFrom? 0 point actors

end Actor
end SceneScript
