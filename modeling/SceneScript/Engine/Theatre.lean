import SceneScript.Engine.Event
import SceneScript.Engine.Frame
/-!
# Engine — several engines side by side

A theatre holds engines, the registries they use, and the world around them.
Each engine has a place for a registry of its own and may use that of another
engine instead. An operation on one engine takes its session out of the
theatre and puts what is left of it back.
-/

namespace SceneScript

variable {n : Nat} {κ α γ : Type}

/-- Engines that may share registries. -/
structure Theatre (n : Nat) (κ α γ : Type) where
  engines : Vector (Engine n κ α γ) n
  registries : Vector (Registry (World n κ α γ)) n
  /-- Whose registry each engine uses. -/
  uses : Vector (Fin n) n
  world : World n κ α γ

namespace Theatre

/-- The session of an engine. -/
def session (theatre : Theatre n κ α γ) (i : Fin n) : Session n κ α γ where
  id := i
  engine := theatre.engines.get i
  registry := theatre.registries.get (theatre.uses.get i)
  world := theatre.world

/-- The theatre after the session of an engine. -/
def resume (theatre : Theatre n κ α γ) (i : Fin n) (s : Session n κ α γ) : Theatre n κ α γ :=
  let place := theatre.uses.get i
  { theatre with
    engines := theatre.engines.set i.val s.engine i.isLt
    registries := theatre.registries.set place.val s.registry place.isLt
    world := s.world }

/-- Runs an operation on an engine. -/
def on {β : Type} (theatre : Theatre n κ α γ) (i : Fin n)
    (operation : Session n κ α γ → β × Session n κ α γ) : β × Theatre n κ α γ :=
  let (answer, s) := operation (theatre.session i)
  (answer, theatre.resume i s)

end Theatre

end SceneScript
