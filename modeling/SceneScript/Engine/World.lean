import SceneScript.Assets
import SceneScript.Scope
/-!
# Engine — the world around the directives

Several engines may run side by side. What directives and controllers can
touch of them is gathered in one world: for each engine its office, with the
scope and the asset service, and a state of the host's own. A directive
remembers the engine it was registered for and finds its office by number,
also while another engine runs it.
-/

namespace SceneScript

/-- The services of one engine: a scope whose controllers are known by `κ`,
and an asset service `α`. -/
structure Office (κ α : Type) where
  scope : Scope κ
  assets : α

/-- The offices of `n` engines and the state `γ` of the host. -/
structure World (n : Nat) (κ α γ : Type) where
  offices : Vector (Office κ α) n
  host : γ

namespace World

variable {n : Nat} {κ α γ : Type}

/-- The office of an engine. -/
def office (world : World n κ α γ) (i : Fin n) : Office κ α :=
  world.offices[i]

/-- The world with the office of an engine replaced. -/
def setOffice (world : World n κ α γ) (i : Fin n) (office : Office κ α) : World n κ α γ :=
  { world with offices := world.offices.set i office }

@[simp] theorem office_setOffice (world : World n κ α γ) (i : Fin n) (office : Office κ α) :
    (world.setOffice i office).office i = office := by
  simp [World.office, setOffice]

@[simp] theorem host_setOffice (world : World n κ α γ) (i : Fin n) (office : Office κ α) :
    (world.setOffice i office).host = world.host := rfl

/-- Replacing an office twice is replacing it by the later one. -/
@[simp] theorem setOffice_setOffice (world : World n κ α γ) (i : Fin n) (a b : Office κ α) :
    (world.setOffice i a).setOffice i b = world.setOffice i b := by
  simp [setOffice, Vector.set_set]

/-- Replacing an office by itself changes nothing. -/
@[simp] theorem setOffice_office (world : World n κ α γ) (i : Fin n) :
    world.setOffice i (world.office i) = world := by
  simp [setOffice, World.office]

end World

end SceneScript
