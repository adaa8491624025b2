import Mathlib.Data.List.Find
import SceneScript.Scene
/-!
# Actors — painting order and hits

Actors are painted in pre-order: an actor before what is inside it, and both
before the sibling after it. `paintedFrom` lists them so, each with its path.
An actor is hit at a point where it and every actor around it is visible and
has the point within its bounds, the point seen each time from the actor around
(`hits`).

Hit testing goes down greedily from the last sibling that is hit and never
turns back. It finds the last of all actors that are hit all the same
(`hitFrom?_eq_find?`): whatever is inside an actor is painted after it and
before its later siblings, so none of that is lost on the way.
-/

namespace SceneScript

namespace Actor

/-- Actors and all that is inside them with their paths, in painting order,
where the list starts at place `i`. -/
def paintedFrom (i : Nat) : List Actor → List (List Nat × Actor)
  | [] => []
  | actor@⟨_, _, children⟩ :: rest =>
    (([i], actor) :: (paintedFrom 0 children).map fun entry => (i :: entry.1, entry.2)) ++
      paintedFrom (i + 1) rest

theorem paintedFrom_append (i : Nat) (actors more : List Actor) :
    paintedFrom i (actors ++ more) =
      paintedFrom i actors ++ paintedFrom (i + actors.length) more := by
  induction actors generalizing i with
  | nil =>
    rw [paintedFrom]
    rfl
  | cons actor rest ih =>
    obtain ⟨base, kind, children⟩ := actor
    rw [List.cons_append, paintedFrom, paintedFrom, ih, List.append_assoc, List.length_cons,
      Nat.add_right_comm, Nat.add_assoc]

theorem paintedFrom_singleton (i : Nat) (actor : Actor) :
    paintedFrom i [actor] = ([i], actor) ::
      (paintedFrom 0 actor.children).map fun entry => (i :: entry.1, entry.2) := by
  obtain ⟨base, kind, children⟩ := actor
  rw [paintedFrom, paintedFrom, List.append_nil]

/-- Whether there is an actor at a path that is hit at a point: it and those
around it are visible, and the bounds of each hold the point. -/
def hits (actors : List Actor) (point : Vec2) : List Nat → Bool
  | [] => false
  | i :: path => actors[i]?.any fun actor =>
      actor.base.visible && actor.base.bounds.contains point &&
        (path.isEmpty || hits actor.children (actor.base.bounds.toLocal point) path)

/-! ## Paths -/

theorem atPath?_cons_iff {actors : List Actor} {k : Nat} {path : List Nat} {actor : Actor} :
    atPath? actors (k :: path) = some actor ↔ ∃ outer, actors[k]? = some outer ∧
      (path = [] ∧ outer = actor ∨ path ≠ [] ∧ atPath? outer.children path = some actor) := by
  rw [atPath?, Option.bind_eq_some_iff]
  refine exists_congr fun outer => and_congr_right fun _ => ?_
  by_cases h : path = [] <;> simp [h]

/-- **Every actor is painted, under its path**, and nothing else is. -/
theorem mem_paintedFrom_iff : ∀ (i : Nat) (actors : List Actor) (path : List Nat) (actor : Actor),
    (path, actor) ∈ paintedFrom i actors ↔
      ∃ k rest, path = (i + k) :: rest ∧ atPath? actors (k :: rest) = some actor
  | i, [], path, actor => by simp [paintedFrom, atPath?]
  | i, ⟨base, kind, children⟩ :: later, path, actor => by
    have hinside := mem_paintedFrom_iff 0 children
    have hlater := mem_paintedFrom_iff (i + 1) later path actor
    rw [paintedFrom, List.mem_append, List.mem_cons, List.mem_map, hlater]
    constructor
    · rintro ((hhead | ⟨⟨inner, one⟩, hmem, heq⟩) | ⟨k, rest, rfl, hat⟩)
      · cases hhead
        exact ⟨0, [], rfl, rfl⟩
      · cases heq
        obtain ⟨k, rest, rfl, hat⟩ := (hinside inner one).1 hmem
        rw [Nat.zero_add]
        exact ⟨0, k :: rest, rfl, hat⟩
      · exact ⟨k + 1, rest, by rw [Nat.add_right_comm, Nat.add_assoc], hat⟩
    · rintro ⟨_ | k, rest, rfl, hat⟩
      · left
        obtain ⟨outer, houter, hat⟩ := atPath?_cons_iff.1 hat
        rw [List.getElem?_cons_zero, Option.some.injEq] at houter
        subst houter
        rcases hat with ⟨rfl, rfl⟩ | ⟨hne, hat⟩
        · exact .inl rfl
        · obtain ⟨k, rest, rfl⟩ := List.exists_cons_of_ne_nil hne
          refine .inr ⟨(k :: rest, actor), (hinside _ _).2 ⟨k, rest, ?_, hat⟩, rfl⟩
          rw [Nat.zero_add]
      · exact .inr ⟨k, rest, by rw [Nat.add_right_comm, Nat.add_assoc], hat⟩

/-- In a whole forest, that is the path to it. -/
theorem mem_paintedFrom_zero_iff {actors : List Actor} {path : List Nat} {actor : Actor} :
    (path, actor) ∈ paintedFrom 0 actors ↔ atPath? actors path = some actor := by
  rw [mem_paintedFrom_iff]
  constructor
  · rintro ⟨k, rest, rfl, hat⟩
    rwa [Nat.zero_add]
  · intro hat
    cases path with
    | nil => cases hat
    | cons k rest => exact ⟨k, rest, by rw [Nat.zero_add], hat⟩

/-- What is hit is there. -/
theorem exists_atPath?_of_hits {actors : List Actor} {point : Vec2} {path : List Nat}
    (h : hits actors point path = true) : ∃ actor, atPath? actors path = some actor := by
  induction path generalizing actors point with
  | nil => cases h
  | cons i path ih =>
    rw [hits, Option.any_eq_true] at h
    obtain ⟨outer, houter, hhit⟩ := h
    rw [Bool.and_eq_true, Bool.or_eq_true, List.isEmpty_iff] at hhit
    by_cases hpath : path = []
    · exact ⟨outer, atPath?_cons_iff.2 ⟨outer, houter, .inl ⟨hpath, rfl⟩⟩⟩
    · obtain ⟨actor, hat⟩ := ih (hhit.2.resolve_left hpath)
      exact ⟨actor, atPath?_cons_iff.2 ⟨outer, houter, .inr ⟨hpath, hat⟩⟩⟩

/-! ## The last that is hit -/

/-- A hit inside an actor, as seen from the list the actor is in. -/
theorem hits_append_cons (before rest : List Actor) (actor : Actor) (point : Vec2)
    (path : List Nat) : hits (before ++ actor :: rest) point (before.length :: path) =
      (isHit actor.base point &&
        (path.isEmpty || hits actor.children (actor.base.bounds.toLocal point) path)) := by
  simp [hits, isHit]

/-- **Hit testing finds the last of all actors that are hit**, in painting
order. The actors tested follow others in their list. -/
theorem hitFrom?_eq_find? (point : Vec2) : ∀ before actors : List Actor,
    hitFrom? before.length point actors =
      ((paintedFrom before.length actors).reverse.find? fun entry =>
        hits (before ++ actors) point entry.1).map (·.1)
  | before, [] => by rw [hitFrom?, paintedFrom, List.reverse_nil, List.find?_nil, Option.map_none]
  | before, ⟨base, kind, children⟩ :: rest => by
    have hrest := hitFrom?_eq_find? point (before ++ [⟨base, kind, children⟩]) rest
    have hinside := hitFrom?_eq_find? (base.bounds.toLocal point) [] children
    rw [List.length_append, List.length_singleton, List.append_assoc, List.singleton_append]
      at hrest
    rw [List.length_nil, List.nil_append] at hinside
    rw [hitFrom?, hrest, paintedFrom, List.reverse_append, List.find?_append, Option.map_or]
    congr 1
    -- the actor itself, and what is inside it
    rw [List.reverse_cons, List.find?_append, ← List.map_reverse, List.find?_map]
    have hbelow : (paintedFrom 0 children).reverse.find?
        ((fun entry => hits (before ++ ⟨base, kind, children⟩ :: rest) point entry.1) ∘
          fun entry : List Nat × Actor => (before.length :: entry.1, entry.2)) =
        (paintedFrom 0 children).reverse.find? fun entry =>
          isHit base point && hits children (base.bounds.toLocal point) entry.1 := by
      refine List.find?_congr fun entry hmem => ?_
      obtain ⟨k, path, hpath, -⟩ :=
        (mem_paintedFrom_iff 0 children entry.1 entry.2).1 (List.mem_reverse.1 hmem)
      simp only [Function.comp_apply, hits_append_cons, hpath, List.isEmpty_cons, Bool.false_or]
    rw [hbelow, List.find?_singleton, hits_append_cons]
    cases isHit base point with
    | false =>
      have hnone : (paintedFrom 0 children).reverse.find? (fun _ => false) = none :=
        List.find?_eq_none.2 fun _ _ => Bool.false_ne_true
      simp only [Bool.false_and, hnone]
      rfl
    | true =>
      simp only [Bool.true_and, hinside]
      cases (paintedFrom 0 children).reverse.find? fun entry =>
        hits children (base.bounds.toLocal point) entry.1 <;> rfl

end Actor

namespace Scene

/-- The actors of a scene with their paths, in painting order. -/
def painted (scene : Scene) : List (List Nat × Actor) :=
  Actor.paintedFrom 0 scene.actors

/-- Whether there is an actor at a path that is hit at a point of the stage: it
and those around it are visible, and the bounds of each hold the point. The
bounds of the scene need not, but the point is seen from its origin. -/
def hits (scene : Scene) (point : Vec2) (path : List Nat) : Bool :=
  Actor.hits scene.actors (scene.base.bounds.toLocal point) path

/-- Every actor of a scene is painted, under its path. -/
theorem mem_painted_iff {scene : Scene} {path : List Nat} {actor : Actor} :
    (path, actor) ∈ scene.painted ↔ scene.atPath? path = some actor :=
  Actor.mem_paintedFrom_zero_iff

theorem hit?_eq_find? (scene : Scene) (point : Vec2) :
    scene.hit? point =
      (scene.painted.reverse.find? fun entry => scene.hits point entry.1).map (·.1) :=
  Actor.hitFrom?_eq_find? (scene.base.bounds.toLocal point) [] scene.actors

/-- **Hit testing picks the last painted actor.** It finds nothing exactly where
no actor is hit. Otherwise it finds the path of an actor that is hit with none
hit that is painted later, and the path leads to that actor. -/
theorem hit?_last_painted (scene : Scene) (point : Vec2) :
    (scene.hit? point = none ↔ ∀ path, scene.hits point path = false) ∧
    ∀ path, scene.hit? point = some path ↔ scene.hits point path = true ∧
      ∃ actor earlier later, scene.atPath? path = some actor ∧
        scene.painted = earlier ++ (path, actor) :: later ∧
        ∀ entry ∈ later, scene.hits point entry.1 = false := by
  rw [hit?_eq_find?]
  constructor
  · rw [Option.map_eq_none_iff, List.find?_eq_none]
    constructor
    · intro hnone path
      rw [← Bool.not_eq_true]
      intro hhit
      obtain ⟨actor, hat⟩ := Actor.exists_atPath?_of_hits hhit
      exact hnone (path, actor) (List.mem_reverse.2 (mem_painted_iff.2 hat)) hhit
    · intro hnone entry _
      rw [hnone entry.1]
      exact Bool.false_ne_true
  · intro path
    rw [Option.map_eq_some_iff]
    constructor
    · rintro ⟨⟨path, actor⟩, hfound, rfl⟩
      obtain ⟨hhit, later, earlier, hsplit, hlater⟩ := List.find?_eq_some_iff_append.1 hfound
      have hpainted : scene.painted = earlier.reverse ++ (path, actor) :: later.reverse := by
        rw [← List.reverse_reverse scene.painted, hsplit]
        simp
      refine ⟨hhit, actor, earlier.reverse, later.reverse, ?_, hpainted, fun entry hentry => ?_⟩
      · exact mem_painted_iff.1 (hpainted ▸ List.mem_append_right _ List.mem_cons_self)
      · simpa using hlater entry (List.mem_reverse.1 hentry)
    · rintro ⟨hhit, actor, earlier, later, -, hpainted, hlater⟩
      refine ⟨(path, actor), List.find?_eq_some_iff_append.2 ⟨hhit, later.reverse,
        earlier.reverse, by simp [hpainted], fun entry hentry => ?_⟩, rfl⟩
      simpa using hlater entry (List.mem_reverse.1 hentry)

end Scene

end SceneScript
