/-!
# Named — finite maps from names

Registered controllers, variables, drawables and documents are kept under
their names. A map is a list of entries in the order their names were first
used; putting a name again replaces its entry, so that no name occurs twice
(`Named.put`).
-/

namespace SceneScript

/-- Entries under their names. -/
abbrev Named (α : Type) := List (String × α)

namespace Named

variable {α : Type}

/-- The entry under a name. -/
def get? : Named α → String → Option α
  | [], _ => none
  | (key, value) :: rest, name => if name = key then some value else get? rest name

/-- The map with an entry under a name, in place of the one before. -/
def put : Named α → String → α → Named α
  | [], name, value => [(name, value)]
  | (key, old) :: rest, name, value =>
    if name = key then (key, value) :: rest else (key, old) :: put rest name value

/-- The map without a name. -/
def erase (entries : Named α) (name : String) : Named α :=
  entries.filter (·.1 ≠ name)

/-- The names in use. -/
def names (entries : Named α) : List String :=
  entries.map (·.1)

/-- Entries put one after the other. -/
def ofList (entries : List (String × α)) : Named α :=
  entries.foldl (fun map entry => put map entry.1 entry.2) []

@[simp] theorem get?_nil (name : String) : get? ([] : Named α) name = none := rfl

/-- **A map answers what was put last.** -/
theorem get?_put (entries : Named α) (name other : String) (value : α) :
    (put entries name value).get? other =
      if other = name then some value else entries.get? other := by
  induction entries with
  | nil => simp [put, get?]
  | cons entry rest ih =>
    obtain ⟨key, old⟩ := entry
    by_cases hk : name = key
    · by_cases h : other = key <;> simp [put, get?, hk, h]
    · by_cases h : other = key
      · simp [put, get?, hk, h, Ne.symm hk]
      · simp [put, get?, hk, h, ih]

/-- A name that was taken away is not in the map. -/
theorem get?_erase (entries : Named α) (name other : String) :
    (erase entries name).get? other = if other = name then none else entries.get? other := by
  induction entries with
  | nil => simp [erase, get?]
  | cons entry rest ih =>
    obtain ⟨key, old⟩ := entry
    have ih : get? (rest.filter (·.1 ≠ name)) other =
        if other = name then none else get? rest other := ih
    by_cases hk : key = name
    · by_cases h : other = name <;> simp_all [erase, get?]
    · by_cases h : other = key
      · simp [erase, get?, hk, h]
      · simp [erase, get?, hk, h, ← ih]

end Named

end SceneScript
