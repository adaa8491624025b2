import SceneScript.Proofs.Actor.Editing
/-!
# Actors — backgrounds

An actor that is given a background keeps its place. A container takes the background
itself. Any other actor goes into a new container, which has its placement; what is left of
the actor gives up its origin and no longer fills its parent (`Actor.backed`).

In a forest, what is painted after that is what was painted before, in the same order: the
actor so changed, the actors around it with the change inside, and all others as they were,
where those inside the actor are one step further down (`Actor.painted_editAt`). What comes
on top is the new container, right before the actor. It has no name and binds nothing, so
looking up a name passes over it (`Actor.withBackground_transparent`).
-/

namespace SceneScript
namespace Actor

/-! ## One actor -/

/-- Whether an actor is a container. -/
def isContainer (actor : Actor) : Bool :=
  match actor.kind with
  | .container .. => true
  | _ => false

/-- What an actor is once it has a background: a container has taken it over; any other
actor has given up its origin and fills nothing. -/
def backed (color : Color) (actor : Actor) : Actor :=
  match actor.kind with
  | .container pad _ => { actor with kind := .container pad (some color) }
  | _ => { actor with
      base := { actor.base with
        bounds := { actor.base.bounds with origin := .zero }
        fillParent := false } }

/-- The container that goes around an actor which is none. -/
def backdrop (color : Color) (actor : Actor) : Actor :=
  { base := {
      bounds := actor.base.bounds
      fillParent := actor.base.fillParent
      visible := actor.base.visible }
    kind := .container 0 (some color)
    children := [actor.backed color] }

theorem withBackground_eq (color : Color) (actor : Actor) :
    actor.withBackground color =
      if actor.isContainer then actor.backed color else actor.backdrop color := by
  obtain ⟨base, kind, children⟩ := actor
  cases kind <;> rfl

theorem children_backed (color : Color) (actor : Actor) :
    (actor.backed color).children = actor.children := by
  rw [backed]
  split <;> rfl

/-- What a background leaves an actor: its name, what it binds, its colour and fades,
whether it is visible, and its size. -/
structure Untouched (before after : Actor) : Prop where
  name : after.name = before.name
  bindings : after.base.bindings = before.base.bindings
  color : after.base.color = before.base.color
  fades : after.base.fades = before.base.fades
  visible : after.base.visible = before.base.visible
  size : after.base.bounds.size = before.base.bounds.size

theorem untouched_backed (color : Color) (actor : Actor) :
    Untouched actor (actor.backed color) := by
  rw [backed]
  split <;> exact ⟨rfl, rfl, rfl, rfl, rfl, rfl⟩

/-- **The placement is taken over.** -/
theorem placement_withBackground (actor : Actor) (color : Color) :
    (actor.withBackground color).base.bounds = actor.base.bounds ∧
      (actor.withBackground color).base.fillParent = actor.base.fillParent ∧
      (actor.withBackground color).base.visible = actor.base.visible := by
  obtain ⟨base, kind, children⟩ := actor
  cases kind <;> exact ⟨rfl, rfl, rfl⟩

/-- **The background given last counts**, and an actor never goes into two containers. -/
theorem withBackground_withBackground (actor : Actor) (c d : Color) :
    (actor.withBackground c).withBackground d = actor.withBackground d := by
  obtain ⟨base, kind, children⟩ := actor
  cases kind <;> rfl

/-! ## Where things are afterwards -/

/-- Where an actor is after another at a path was given a background: one step further
down inside a new container. -/
def movedPath (wraps : Bool) (path q : List Nat) : List Nat :=
  if wraps = true ∧ path <+: q then path ++ 0 :: q.drop path.length else q

/-- What an actor is after another at a path was given a background: itself with it, with
the other inside, or as it was. -/
def recast (color : Color) (path q : List Nat) (actor : Actor) : Actor :=
  if q = path then actor.backed color
  else if q <+: path then
    { actor with
      children := editAt (·.withBackground color) actor.children (path.drop q.length) }
  else actor

theorem untouched_recast (color : Color) (path q : List Nat) (actor : Actor) :
    Untouched actor (recast color path q actor) := by
  rw [recast]
  split
  next => exact untouched_backed color actor
  next => split <;> exact ⟨rfl, rfl, rfl, rfl, rfl, rfl⟩

/-- What is painted for an actor after another at a path was given a background: the new
container, where it goes around this actor, and the actor. -/
def repainted (color : Color) (wraps : Bool) (path : List Nat) (entry : List Nat × Actor) :
    List (List Nat × Actor) :=
  (if wraps = true ∧ entry.1 = path then [(path, entry.2.backdrop color)] else []) ++
    [(movedPath wraps path entry.1, recast color path entry.1 entry.2)]

section Repainted

variable {color : Color} {wraps : Bool} {path q : List Nat} {actor : Actor}

/-- An actor that the path does not begin with or lead to is as it was. -/
theorem repainted_apart (h : ¬ path <+: q) (h' : ¬ q <+: path) :
    repainted color wraps path (q, actor) = [(q, actor)] := by
  have hne : q ≠ path := fun heq => h (heq ▸ List.prefix_rfl)
  simp [repainted, movedPath, recast, h, h', hne]

/-- One step further down all is the same. -/
theorem repainted_cons (i : Nat) :
    repainted color wraps (i :: path) (i :: q, actor) =
      (repainted color wraps path (q, actor)).map fun entry => (i :: entry.1, entry.2) := by
  by_cases heq : q = path
  · by_cases hwraps : wraps = true <;> simp [repainted, movedPath, recast, heq, hwraps]
  · by_cases hinside : path <+: q
    · by_cases hwraps : wraps = true <;>
        simp [repainted, movedPath, recast, heq, hwraps, hinside]
    · simp [repainted, movedPath, recast, heq, hinside]

/-- Actors that the path does not go to are painted as they were. -/
theorem flatMap_repainted_of_ne {k i : Nat} {rest : List Nat} {actors : List Actor}
    (h : i + actors.length ≤ k ∨ k < i) :
    (paintedFrom i actors).flatMap (repainted color wraps (k :: rest)) = paintedFrom i actors := by
  have hself : ∀ entry ∈ paintedFrom i actors,
      repainted color wraps (k :: rest) entry = [entry] := by
    rintro ⟨q, x⟩ hentry
    obtain ⟨j, inner, rfl, hat⟩ := (mem_paintedFrom_iff i actors q x).1 hentry
    obtain ⟨outer, houter, -⟩ := atPath?_cons_iff.1 hat
    obtain ⟨hj, -⟩ := List.getElem?_eq_some_iff.1 houter
    have hne : k ≠ i + j := by omega
    refine repainted_apart ?_ ?_
    · rw [List.cons_prefix_cons]
      exact fun hprefix => hne hprefix.1
    · rw [List.cons_prefix_cons]
      exact fun hprefix => hne hprefix.1.symm
  rw [List.flatMap_congr hself, List.flatMap_singleton']

/-- What is inside an actor is painted one step further down. -/
theorem flatMap_repainted_map_cons (i : Nat) (entries : List (List Nat × Actor)) :
    (entries.map fun entry => (i :: entry.1, entry.2)).flatMap
        (repainted color wraps (i :: path)) =
      (entries.flatMap (repainted color wraps path)).map fun entry => (i :: entry.1, entry.2) := by
  rw [List.flatMap_map, List.map_flatMap]
  exact List.flatMap_congr fun entry _ => repainted_cons i

end Repainted

/-- What is painted around one actor of a forest. -/
theorem paintedFrom_around (earlier later : List Actor) (actor : Actor) :
    paintedFrom 0 (earlier ++ actor :: later) = paintedFrom 0 earlier ++
      (paintedFrom earlier.length [actor] ++ paintedFrom (earlier.length + 1) later) := by
  have hcons : actor :: later = [actor] ++ later := rfl
  rw [hcons, paintedFrom_append, paintedFrom_append, Nat.zero_add, List.length_singleton]

/-! ## What is painted afterwards -/

/-- What an actor with a background is painted as. -/
theorem painted_withBackground (color : Color) (i : Nat) (actor : Actor) :
    paintedFrom i [actor.withBackground color] =
      (paintedFrom i [actor]).flatMap (repainted color (!actor.isContainer) [i]) := by
  have hinside : (paintedFrom 0 actor.children).flatMap
      (repainted color (!actor.isContainer) []) =
      (paintedFrom 0 actor.children).map fun entry =>
        (movedPath (!actor.isContainer) [] entry.1, entry.2) := by
    rw [List.map_eq_flatMap]
    refine List.flatMap_congr fun entry hentry => ?_
    obtain ⟨k, rest, hpath, -⟩ := (mem_paintedFrom_iff 0 _ entry.1 entry.2).1 hentry
    simp [repainted, recast, hpath]
  rw [paintedFrom_singleton i actor, List.flatMap_cons, flatMap_repainted_map_cons, hinside,
    withBackground_eq]
  cases hcontainer : actor.isContainer with
  | true =>
    rw [if_pos rfl, paintedFrom_singleton, children_backed]
    simp [repainted, movedPath, recast]
  | false =>
    have hinner : (actor.backdrop color).children = [actor.backed color] := rfl
    rw [if_neg Bool.false_ne_true, paintedFrom_singleton, hinner, paintedFrom_singleton,
      children_backed]
    simp [repainted, movedPath, recast]

/-- **Giving an actor a background adds a container before it**, and changes what is painted
otherwise only where the actor is and around it. -/
theorem painted_editAt (color : Color) {actors : List Actor} {path : List Nat} {actor : Actor}
    (h : atPath? actors path = some actor) :
    paintedFrom 0 (editAt (·.withBackground color) actors path) =
      (paintedFrom 0 actors).flatMap (repainted color (!actor.isContainer) path) := by
  induction path generalizing actors with
  | nil => cases h
  | cons k path ih =>
    obtain ⟨outer, houter, hat⟩ := atPath?_cons_iff.1 h
    obtain ⟨hk, -⟩ := List.getElem?_eq_some_iff.1 houter
    obtain ⟨earlier, one, later, rfl, rfl, hmodify⟩ := List.exists_of_modify
      (fun actor : Actor => if path = [] then actor.withBackground color else
        { actor with children := editAt (·.withBackground color) actor.children path }) hk
    have hone : one = outer := by simpa using houter
    subst hone
    have hthere : paintedFrom earlier.length [if path = [] then one.withBackground color else
        { one with children := editAt (·.withBackground color) one.children path }] =
        (paintedFrom earlier.length [one]).flatMap
          (repainted color (!actor.isContainer) (earlier.length :: path)) := by
      rcases hat with ⟨rfl, rfl⟩ | ⟨hne, hat⟩
      · rw [if_pos rfl]
        exact painted_withBackground color earlier.length one
      · rw [if_neg hne, paintedFrom_singleton, paintedFrom_singleton, List.flatMap_cons,
          flatMap_repainted_map_cons, ih hat]
        simp [repainted, movedPath, recast, hne]
    have hearlier : (paintedFrom 0 earlier).flatMap
        (repainted color (!actor.isContainer) (earlier.length :: path)) = paintedFrom 0 earlier :=
      flatMap_repainted_of_ne (.inl (by omega))
    have hlater : (paintedFrom (earlier.length + 1) later).flatMap
        (repainted color (!actor.isContainer) (earlier.length :: path)) =
        paintedFrom (earlier.length + 1) later :=
      flatMap_repainted_of_ne (.inr (by omega))
    rw [editAt, hmodify, paintedFrom_around, paintedFrom_around, List.flatMap_append,
      List.flatMap_append, hthere, hearlier, hlater]

section Lookups

variable {color : Color} {wraps : Bool} {path : List Nat}

/-- Of what is painted for an actor afterwards, only the actor may bear a name. -/
theorem find?_repainted (name : String) (entry : List Nat × Actor) :
    (repainted color wraps path entry).find? (bears name) =
      if bears name entry then
        some (movedPath wraps path entry.1, recast color path entry.1 entry.2)
      else none := by
  have hsame : bears name (movedPath wraps path entry.1, recast color path entry.1 entry.2) =
      bears name entry := by
    rw [bears, bears, (untouched_recast color path entry.1 entry.2).name]
  have hcontainer : bears name (path, entry.2.backdrop color) = false := rfl
  rw [repainted, List.find?_append, List.find?_singleton, hsame]
  by_cases hthere : wraps = true ∧ entry.1 = path
  · rw [if_pos hthere, List.find?_singleton, hcontainer, if_neg Bool.false_ne_true, Option.none_or]
  · rw [if_neg hthere, List.find?_nil, Option.none_or]

/-- **A name leads to the actor it led to.** -/
theorem find?_flatMap_repainted (name : String) (entries : List (List Nat × Actor)) :
    (entries.flatMap (repainted color wraps path)).find? (bears name) =
      (entries.find? (bears name)).map fun entry =>
        (movedPath wraps path entry.1, recast color path entry.1 entry.2) := by
  induction entries with
  | nil => rfl
  | cons entry rest ih =>
    rw [List.flatMap_cons, List.find?_append, find?_repainted, ih, List.find?_cons]
    cases bears name entry <;> rfl

/-- What is painted for an actor afterwards is the actor, or a container without a name that
binds nothing. -/
theorem mem_repainted {entry later : List Nat × Actor}
    (h : later ∈ repainted color wraps path entry) :
    later = (movedPath wraps path entry.1, recast color path entry.1 entry.2) ∨
      later.1 = path ∧ later.2.name = none ∧ later.2.base.bindings = [] := by
  rw [repainted, List.mem_append, List.mem_singleton] at h
  rcases h with hcontainer | hself
  · split at hcontainer
    · rw [List.mem_singleton.1 hcontainer]
      exact .inr ⟨rfl, rfl, rfl⟩
    · cases hcontainer
  · exact .inl hself

end Lookups

/-- **A background is transparent.** An actor with one stands where the actor stood, and the
background given last is the only one. Around it nothing else shows: every name leads where
it led, if anywhere, to the same actor but for the background, and in the actor's case its
origin and its filling of the parent, which the container around it has now; all that was
there is, with its name, bindings, colour, fades, visibility and size; and all that is there
was, but for one actor without a name that binds nothing. -/
theorem withBackground_transparent (actor : Actor) (c d : Color) :
    ((actor.withBackground c).base.bounds = actor.base.bounds ∧
      (actor.withBackground c).base.fillParent = actor.base.fillParent ∧
      (actor.withBackground c).base.visible = actor.base.visible) ∧
    (actor.withBackground c).withBackground d = actor.withBackground d ∧
    ∀ before path, atPath? before path = some actor →
      let after := editAt (·.withBackground c) before path
      let moved := movedPath (!actor.isContainer) path
      (∀ name, find? name before = none ∧ find? name after = none ∨
        ∃ q x, pathOf? before name = some q ∧ find? name before = some x ∧
          pathOf? after name = some (moved q) ∧ find? name after = some (recast c path q x)) ∧
      (∀ q x, atPath? before q = some x →
        atPath? after (moved q) = some (recast c path q x) ∧
          Untouched x (recast c path q x)) ∧
      ∀ r y, atPath? after r = some y →
        (∃ q x, atPath? before q = some x ∧ r = moved q) ∨
          r = path ∧ y.name = none ∧ y.base.bindings = [] := by
  refine ⟨placement_withBackground actor c, withBackground_withBackground actor c d, ?_⟩
  intro before path hactor after moved
  have hpainted : paintedFrom 0 after =
      (paintedFrom 0 before).flatMap (repainted c (!actor.isContainer) path) :=
    painted_editAt c hactor
  refine ⟨fun name => ?_, fun q x hq => ⟨?_, untouched_recast c path q x⟩, fun r y hr => ?_⟩
  · have hpath : ∀ actors, pathOf? actors name =
        ((paintedFrom 0 actors).find? (bears name)).map (·.1) :=
      pathFrom?_eq_find? name 0
    rw [find?_eq_find? name 0 before, find?_eq_find? name 0 after, hpath, hpath, hpainted,
      find?_flatMap_repainted]
    cases (paintedFrom 0 before).find? (bears name) with
    | none => exact .inl ⟨rfl, rfl⟩
    | some entry => exact .inr ⟨entry.1, entry.2, rfl, rfl, rfl, rfl⟩
  · rw [← mem_paintedFrom_zero_iff, hpainted, List.mem_flatMap]
    exact ⟨(q, x), mem_paintedFrom_zero_iff.2 hq, List.mem_append_right _ List.mem_cons_self⟩
  · rw [← mem_paintedFrom_zero_iff, hpainted, List.mem_flatMap] at hr
    obtain ⟨⟨q, x⟩, hq, hmem⟩ := hr
    rcases mem_repainted hmem with hself | hcontainer
    · exact .inl ⟨q, x, mem_paintedFrom_zero_iff.1 hq, congrArg Prod.fst hself⟩
    · exact .inr hcontainer

/-- Behind a box with a title in it: the title is one step further down, and is still the
one of its name that is found. -/
theorem withBackground_transparent_rack :
    ∃ box : Actor, atPath? rack [1, 2] = some box ∧ box.isContainer = false ∧
      pathOf? (editAt (·.withBackground .white) rack [1, 2]) "title" = some [1, 2, 0, 0] := by
  obtain ⟨box, hbox⟩ : ∃ box, atPath? rack [1, 2] = some box := ⟨_, rfl⟩
  have hkind : box.isContainer = false := by
    cases hbox
    rfl
  have htitle : pathOf? rack "title" = some [1, 2, 0] := by cbv
  refine ⟨box, hbox, hkind, ?_⟩
  have hnames := ((withBackground_transparent box .white .white).2.2 rack [1, 2] hbox).1
  rcases hnames "title" with ⟨hnone, -⟩ | ⟨q, x, hq, -, hafter, -⟩
  · have hfound : (find? "title" rack).isSome = true := by cbv
    rw [hnone] at hfound
    cases hfound
  · rw [htitle] at hq
    cases hq
    rw [hafter, hkind]
    rfl

end Actor
end SceneScript
