import Mathlib.Data.List.TakeDrop
import Mathlib.Data.List.TakeWhile
import SceneScript.Registry.Basic
/-!
# Registry — how it grows

What a registry has under some segments is decided by `node?`, and everything
done to a registry is an equation for it: creating a namespace adds empty ones
on the way where there are none (`node?_create`), and adding directives extends
one (`node?_add`). So nothing is taken away, and a namespace exists exactly when
it was there or lies on the way to one that was created (`has_create_iff`).

Whether a namespace exists can also be asked by its full name. That is the same
question where the name of the root has no dot (`isCreated_of_not_mem`); where it
has one, the answer is always no (`isCreated_of_mem`).
-/

namespace SceneScript

namespace Registry

variable {σ : Type} {registry : Registry σ} {path other : List String}

/-- There is a namespace under some segments. -/
def Has (registry : Registry σ) (path : List String) : Prop :=
  (registry.node? path).isSome

/-! ## Creating namespaces -/

theorem node?_ensure (registry : Registry σ) (path other : List String) :
    (registry.ensure path).node? other =
      (registry.node? other).or (if other = path then some {} else none) := by
  unfold ensure
  split
  next hsome =>
    split
    next h =>
      obtain ⟨ns, hns⟩ := Option.isSome_iff_exists.1 (h ▸ hsome)
      rw [hns]
      rfl
    next => rw [Option.or_none]
  next =>
    simp only [node?, List.find?_append, Option.map_or]
    by_cases h : other = path
    · rw [if_pos h, h]
      simp
    · rw [if_neg h]
      simp [Ne.symm h]

/-- The namespaces on the way from one down to another, without the first. -/
def OnTheWay (done rest path : List String) : Prop :=
  path ≠ done ∧ done <+: path ∧ path <+: done ++ rest

instance (done rest path : List String) : Decidable (OnTheWay done rest path) := by
  unfold OnTheWay
  infer_instance

theorem not_onTheWay_nil (done path : List String) : ¬ OnTheWay done [] path := by
  rintro ⟨hne, hdone, hpath⟩
  rw [List.append_nil] at hpath
  exact hne (hpath.eq_of_length_le hdone.length_le)

/-- The way begins with its first namespace. -/
theorem onTheWay_cons_iff {done rest path : List String} {segment : String} :
    OnTheWay done (segment :: rest) path ↔
      path = done ++ [segment] ∨ OnTheWay (done ++ [segment]) rest path := by
  constructor
  · rintro ⟨hne, ⟨tail, rfl⟩, hpath⟩
    rw [List.prefix_append_right_inj] at hpath
    cases tail with
    | nil => simp at hne
    | cons first tail =>
      obtain ⟨rfl, htail⟩ := List.cons_prefix_cons.1 hpath
      by_cases h : tail = []
      · exact .inl (by rw [h])
      · refine .inr ⟨?_, ⟨tail, by simp⟩, ?_⟩
        · simpa using h
        · simpa using htail
  · rintro (rfl | ⟨hne, hdone, hpath⟩)
    · exact ⟨by simp, List.prefix_append _ _, by simp⟩
    · refine ⟨?_, (List.prefix_append _ _).trans hdone, by simpa using hpath⟩
      rintro rfl
      exact absurd hdone.length_le (by simp)

theorem node?_ensureFrom (registry : Registry σ) (done rest path : List String) :
    (registry.ensureFrom done rest).node? path =
      (registry.node? path).or (if OnTheWay done rest path then some {} else none) := by
  induction rest generalizing registry done with
  | nil => rw [ensureFrom, if_neg (not_onTheWay_nil done path), Option.or_none]
  | cons segment rest ih =>
    rw [ensureFrom, ih, node?_ensure, Option.or_assoc]
    congr 1
    by_cases h : path = done ++ [segment]
    · rw [if_pos h, if_pos (onTheWay_cons_iff.2 (.inl h))]
      rfl
    · rw [if_neg h, Option.none_or]
      simp only [onTheWay_cons_iff, h, false_or]

/-- **Creating a namespace** adds empty ones on the way to it where there are
none. -/
theorem node?_create (registry : Registry σ) (name : String) (path : List String) :
    (registry.create name).node? path = (registry.node? path).or
      (if path ≠ [] ∧ path <+: segments name then some {} else none) := by
  rw [create, node?_ensureFrom]
  simp [OnTheWay]

/-- **What exists once a namespace was created.** -/
theorem has_create_iff {name : String} : (registry.create name).Has path ↔
    registry.Has path ∨ path ≠ [] ∧ path <+: segments name := by
  rw [Has, node?_create, Option.isSome_or, Bool.or_eq_true, Has]
  by_cases h : path ≠ [] ∧ path <+: segments name <;> simp [h]

@[simp] theorem root_ensureFrom (registry : Registry σ) (done rest : List String) :
    (registry.ensureFrom done rest).root = registry.root := by
  induction rest generalizing registry done with
  | nil => rfl
  | cons segment rest ih =>
    rw [ensureFrom, ih]
    unfold ensure
    split <;> rfl

@[simp] theorem root_create (registry : Registry σ) (name : String) :
    (registry.create name).root = registry.root :=
  root_ensureFrom registry [] (segments name)

/-! ## Adding directives -/

theorem node?_edit (registry : Registry σ) (path : List String) (f : Namespace σ → Namespace σ)
    (other : List String) : (registry.edit path f).node? other =
      if other = path then (registry.node? other).map f else registry.node? other := by
  have hkeys : ((fun entry : List String × Namespace σ => entry.1 == other) ∘ fun (key, ns) =>
      if key = path then (key, f ns) else (key, ns)) = fun entry => entry.1 == other := by
    funext entry
    simp only [Function.comp]
    split <;> rfl
  rw [node?, edit, List.find?_map, hkeys, Option.map_map, node?]
  cases hfound : registry.nodes.find? (·.1 == other) with
  | none => simp
  | some entry =>
    have hkey : entry.1 = other := by simpa using List.find?_some hfound
    by_cases h : other = path <;> simp [hkey, h]

/-- **Adding directives** extends the namespace at the path. -/
theorem node?_add (registry : Registry σ) (name : String) (elements : List (ElementDirective σ))
    (attributes : List (AttributeDirective σ)) (path : List String) :
    (registry.add name elements attributes).node? path =
      if path = segments name then
        ((registry.create name).node? path).map (·.extend elements attributes)
      else (registry.create name).node? path :=
  node?_edit ..

theorem has_add_iff {name : String} {elements : List (ElementDirective σ)}
    {attributes : List (AttributeDirective σ)} :
    (registry.add name elements attributes).Has path ↔ (registry.create name).Has path := by
  rw [Has, node?_add]
  split
  · rw [Option.isSome_map, Has]
  · rfl

@[simp] theorem root_add (registry : Registry σ) (name : String)
    (elements : List (ElementDirective σ)) (attributes : List (AttributeDirective σ)) :
    (registry.add name elements attributes).root = registry.root :=
  root_create registry name

/-! ## Full names -/

theorem toList_fullName (root name : String) :
    (root ++ "." ++ name).toList = root.toList ++ '.' :: name.toList := by
  simp [String.toList_append]

/-- **Where the name of the root has no dot**, a full name names what its path
does. -/
theorem isCreated_of_not_mem (h : '.' ∉ registry.root.toList) (name : String) :
    registry.isCreated (registry.root ++ "." ++ name) = (registry.find? name).isSome := by
  have hroot : ∀ c ∈ registry.root.toList, (decide (c ≠ '.')) = true := by
    intro c hc
    exact decide_eq_true fun hdot => h (hdot ▸ hc)
  have hspan : (registry.root ++ "." ++ name).toList.span (· ≠ '.') =
      (registry.root.toList, '.' :: name.toList) := by
    rw [toList_fullName, List.span_eq_takeWhile_dropWhile, List.takeWhile_append_of_pos hroot,
      List.dropWhile_append_of_pos hroot]
    simp
  rw [isCreated, hspan]
  simp

/-- **Where it has one**, no full name names anything. -/
theorem isCreated_of_mem (h : '.' ∈ registry.root.toList) (name : String) :
    registry.isCreated (registry.root ++ "." ++ name) = false := by
  rw [isCreated]
  split
  next head rest hspan =>
    -- what stands before the first dot has none, so it is not the name of the root
    rw [List.span_eq_takeWhile_dropWhile, Prod.mk.injEq] at hspan
    have hhead : '.' ∉ head := by
      intro hdot
      rw [← hspan.1] at hdot
      simpa using List.mem_takeWhile_imp hdot
    have hne : String.ofList head ≠ registry.root := by
      rintro heq
      rw [← heq] at h
      exact hhead (by simpa using h)
    rw [beq_false_of_ne hne, Bool.false_and]
  next =>
    refine beq_false_of_ne fun heq => ?_
    have hlength := congrArg (·.toList.length) heq
    simp at hlength

end Registry

end SceneScript
