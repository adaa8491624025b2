import SceneScript.Proofs.Actor.Editing
import SceneScript.Proofs.Engine.Requests
/-!
# Engine — where an event goes

An event at a point goes to the innermost actor on the path of the hit that
binds it, and where none does, to the one that was hit. The search shortens the
path until it leads to such an actor; of what the path leads through that is the
last one that binds the event (`bindingPath?_eq`). An event for a name goes to the
first actor painted under the name.

Whichever the actor is, what follows is the same (`sends_firePath`): if it is a
check box and the event is a click, its mark is turned over, and then the action
that it binds, if any, is sent to one controller, if there is one.

So a click turns over the check box that it goes to, and that need not be the one
that was hit: `turned_fireAt_iff` says exactly when it is.
-/

namespace SceneScript

variable {n : Nat} {κ α γ : Type}

/-- A mark is the actor's own. -/
theorem Actor.children_toggled (actor : Actor) : actor.toggled.children = actor.children := by
  unfold toggled
  split <;> rfl

/-- What is hit where one actor stands within another and nothing else does. -/
theorem Actor.hit?_of_nested {actors : List Actor} {point : Vec2}
    (h : actors.map (fun outer => (isHit outer.base point, outer.children.map fun inner =>
      (isHit inner.base (outer.base.bounds.toLocal point), inner.children.length))) =
        [(true, [(true, 0)])]) : hit? actors point = some [0, 0] := by
  obtain ⟨⟨base, kind, children⟩, rfl, houter⟩ := List.map_eq_singleton_iff.1 h
  rw [Prod.mk.injEq] at houter
  obtain ⟨⟨base', kind', children'⟩, rfl, hinner⟩ := List.map_eq_singleton_iff.1 houter.2
  rw [Prod.mk.injEq, List.length_eq_zero_iff] at hinner
  obtain ⟨hinner, rfl⟩ := hinner
  rw [hit?, hitFrom?, hitFrom?, Option.none_or, if_pos houter.1, hitFrom?, hitFrom?,
    Option.none_or, if_pos hinner, hitFrom?]
  rfl

namespace Scene

/-! ## The actor in question -/

/-- What a path leads through, from the outermost actor to the innermost, each
with its own path. -/
def along (scene : Scene) (path : List Nat) : List (List Nat × Actor) :=
  (List.range path.length).filterMap fun k =>
    (scene.atPath? (path.take (k + 1))).map (path.take (k + 1), ·)

/-- Whether an actor binds an event. -/
def binds (event : String) (entry : List Nat × Actor) : Bool :=
  (entry.2.base.binding? event).isSome

/-- The innermost actor on a path that binds an event, with its path. -/
def binder? (scene : Scene) (event : String) (path : List Nat) : Option (List Nat × Actor) :=
  (scene.along path).reverse.find? (binds event)

/-- The action for an event at a point: that of the innermost actor that binds the
event, of those that the path of the hit leads through. -/
def actionAt? (scene : Scene) (point : Vec2) (event : String) : Option String :=
  ((scene.hit? point).bind (scene.binder? event)).bind (·.2.base.binding? event)

/-- The action for an event for a name: that of the first actor painted under the
name, and of no other. -/
def actionOf? (scene : Scene) (name event : String) : Option String :=
  (scene.painted.find? (Actor.bears name)).bind (·.2.base.binding? event)

/-- A path leads through what its beginnings lead to. -/
theorem mem_along_iff {scene : Scene} {path q : List Nat} {actor : Actor} :
    (q, actor) ∈ scene.along path ↔ q <+: path ∧ scene.atPath? q = some actor := by
  simp only [along, List.mem_filterMap, List.mem_range, Option.map_eq_some_iff]
  constructor
  · rintro ⟨k, -, outer, hactor, heq⟩
    cases heq
    exact ⟨List.take_prefix _ _, hactor⟩
  · rintro ⟨hbegins, hactor⟩
    obtain _ | ⟨i, q⟩ := q
    · cases hactor
    have hlength : q.length < path.length := hbegins.length_le
    refine ⟨q.length, hlength, actor, ?_⟩
    have htake : path.take (q.length + 1) = i :: q := (List.prefix_iff_eq_take.1 hbegins).symm
    rw [htake]
    exact ⟨hactor, rfl⟩

/-- The last it leads through is the actor at its end. -/
theorem exists_along_eq {scene : Scene} {path : List Nat} {actor : Actor}
    (hactor : scene.atPath? path = some actor) :
    ∃ outer, scene.along path = outer ++ [(path, actor)] ∧ ∀ entry ∈ outer, entry.1 ≠ path := by
  obtain ⟨m, hm⟩ : ∃ m, path.length = m + 1 := by
    cases path with
    | nil => cases hactor
    | cons i path => exact ⟨_, rfl⟩
  have hwhole : path.take (m + 1) = path := hm ▸ List.take_length
  refine ⟨(List.range m).filterMap fun k =>
    (scene.atPath? (path.take (k + 1))).map (path.take (k + 1), ·), ?_, ?_⟩
  · rw [along, hm, List.range_succ, List.filterMap_append, List.filterMap_cons, hwhole, hactor]
    rfl
  · intro entry hentry heq
    simp only [List.mem_filterMap, List.mem_range, Option.map_eq_some_iff] at hentry
    obtain ⟨k, hk, outer, -, rfl⟩ := hentry
    have hlength := congrArg List.length heq
    rw [List.length_take] at hlength
    omega

/-- **The search for a path that binds an event finds the innermost actor that
does**, of all that the path leads through. -/
theorem bindingPath?_eq (scene : Scene) (event : String) (path : List Nat) :
    Session.bindingPath? scene event path path.length = (scene.binder? event path).map (·.1) := by
  rw [binder?, along]
  generalize path.length = length
  induction length with
  | zero => rfl
  | succ length ih =>
    rw [Session.bindingPath?, List.range_succ, List.filterMap_append, List.filterMap_cons,
      List.filterMap_nil, List.reverse_append, List.find?_append, Option.map_or, ← ih]
    cases scene.atPath? (path.take (length + 1)) with
    | none => rfl
    | some actor =>
      by_cases hbinds : (actor.base.binding? event).isSome = true <;> simp [binds, hbinds]

/-- What the innermost actor that binds an event is. -/
theorem binder?_some {scene : Scene} {event : String} {path : List Nat}
    {entry : List Nat × Actor} (h : scene.binder? event path = some entry) :
    entry.1 <+: path ∧ scene.atPath? entry.1 = some entry.2 ∧
      binds event entry = true :=
  have hmem := mem_along_iff.1 (List.mem_reverse.1 (List.mem_of_find?_eq_some h))
  ⟨hmem.1, hmem.2, List.find?_some h⟩

/-- The path that an event at the end of a path goes to. -/
def target (scene : Scene) (event : String) (path : List Nat) : List Nat :=
  ((scene.binder? event path).map (·.1)).getD path

/-- It is a beginning of that path, with an actor at its end, whose action is the
one in question. -/
theorem target_spec {scene : Scene} {path : List Nat} {actor : Actor} (event : String)
    (hactor : scene.atPath? path = some actor) :
    scene.target event path <+: path ∧ ∃ receiver,
      scene.atPath? (scene.target event path) = some receiver ∧
      receiver.base.binding? event =
        (scene.binder? event path).bind (·.2.base.binding? event) := by
  unfold target
  cases hbinder : scene.binder? event path with
  | some entry =>
    obtain ⟨hbegins, hentry, -⟩ := binder?_some hbinder
    exact ⟨hbegins, entry.2, hentry, rfl⟩
  | none =>
    refine ⟨List.prefix_rfl, actor, hactor, ?_⟩
    have hnot := List.find?_eq_none.1 hbinder _
      (List.mem_reverse.2 (mem_along_iff.2 ⟨List.prefix_rfl, hactor⟩))
    simpa [binds] using hnot

/-- **An event goes to the actor that was hit** exactly where that one binds it, or
none around it does either. -/
theorem target_eq_iff {scene : Scene} {event : String} {path : List Nat} {actor : Actor}
    (hactor : scene.atPath? path = some actor) :
    scene.target event path = path ↔ (actor.base.binding? event).isSome ∨
      ∀ entry ∈ scene.along path, entry.2.base.binding? event = none := by
  obtain ⟨outer, halong, houter⟩ := exists_along_eq hactor
  rw [target, binder?, halong, List.reverse_append, List.reverse_singleton, List.singleton_append,
    List.find?_cons]
  -- the actor that was hit is the first that the search asks
  cases hbinds : binds event (path, actor) with
  | true => exact iff_of_true rfl (.inl hbinds)
  | false =>
    cases hfind : outer.reverse.find? (binds event) with
    | none =>
      refine iff_of_true rfl (.inr fun entry hentry => ?_)
      rw [← Option.not_isSome_iff_eq_none]
      rcases List.mem_append.1 hentry with houtside | hself
      · exact List.find?_eq_none.1 hfind entry (List.mem_reverse.2 houtside)
      · rw [List.mem_singleton.1 hself]
        exact Bool.eq_false_iff.1 hbinds
    | some entry =>
      have hentry : entry ∈ outer := List.mem_reverse.1 (List.mem_of_find?_eq_some hfind)
      have hentrybinds : binds event entry = true := List.find?_some hfind
      refine iff_of_false (houter entry hentry) ?_
      rintro (hself | hall)
      · exact Bool.eq_false_iff.1 hbinds hself
      · rw [binds, hall entry (List.mem_append_left _ hentry)] at hentrybinds
        cases hentrybinds

/-! ## The mark -/

/-- The scene with the mark of the check box at a path turned over, where the
event is a click. -/
def marked (scene : Scene) (path : List Nat) (event : String) : Scene :=
  if Text.alike event "click" then scene.editAt Actor.toggled path else scene

/-- Whether the check box at a path is marked, if there is one. -/
def mark? (scene : Scene) (path : List Nat) : Option Bool :=
  match scene.atPath? path with
  | some ⟨_, .checkBox _ checked, _⟩ => some checked
  | _ => none

theorem exists_of_mark? {scene : Scene} {path : List Nat} {checked : Bool}
    (h : scene.mark? path = some checked) : ∃ base text children,
      scene.atPath? path = some ⟨base, .checkBox text checked, children⟩ := by
  unfold mark? at h
  split at h
  next base text _ children hbox =>
    cases h
    exact ⟨base, text, children, hbox⟩
  next => cases h

/-- The mark of one check box is turned over, and that is all. -/
structure Turned (scene : Scene) (path : List Nat) (after : Scene) : Prop where
  box : ∃ base text checked children,
    scene.atPath? path = some ⟨base, .checkBox text checked, children⟩ ∧
      after.atPath? path = some ⟨base, .checkBox text (!checked), children⟩
  edited : Actor.Edited Actor.toggled path scene.actors after.actors
  rest : after = { scene with actors := after.actors }

/-- Nothing is done to a scene, or on a click the mark of one check box is turned
over. -/
def Marks (scene : Scene) (event : String) (after : Scene) : Prop :=
  after = scene ∨ Text.alike event "click" ∧ ∃ path, scene.Turned path after

theorem turned_editAt {scene : Scene} {path : List Nat} {base : Base} {text : String}
    {checked : Bool} {children : List Actor}
    (hbox : scene.atPath? path = some ⟨base, .checkBox text checked, children⟩) :
    scene.Turned path (scene.editAt Actor.toggled path) := by
  have harrives : Actor.editAt? Actor.toggled scene.actors path =
      some (Actor.editAt Actor.toggled scene.actors path) := by
    rw [Actor.editAt?_eq]
    exact congrArg _ hbox
  refine ⟨⟨base, text, checked, children, hbox, ?_⟩,
    Actor.edited_of_editAt? (fun actor _ => actor.children_toggled) harrives, rfl⟩
  exact (Actor.atPath?_editAt_self _ _ _).trans (congrArg _ hbox)

/-- **An event turns over the mark of one check box at most**, and only a click
does. -/
theorem marks_marked (scene : Scene) (path : List Nat) (event : String) :
    scene.Marks event (scene.marked path event) := by
  by_cases hclick : Text.alike event "click" = true
  · rw [marked, if_pos hclick]
    by_cases hbox : ∃ base text checked children,
        scene.atPath? path = some ⟨base, .checkBox text checked, children⟩
    · obtain ⟨base, text, checked, children, hbox⟩ := hbox
      exact .inr ⟨hclick, path, turned_editAt hbox⟩
    · -- whatever else is there has no mark
      have hfixed (actor : Actor) (hactor : scene.atPath? path = some actor) :
          actor.toggled = actor := by
        unfold Actor.toggled
        split
        next text checked hkind =>
          obtain ⟨base, kind, children⟩ := actor
          cases hkind
          exact absurd ⟨base, text, checked, children, hactor⟩ hbox
        next => rfl
      refine .inl ?_
      rw [editAt, Actor.editAt_of_fixed hfixed]
  · exact .inl (if_neg hclick)

/-- A mark that is turned over is not what it was. -/
theorem Turned.ne {scene after : Scene} {path : List Nat} (h : scene.Turned path after) :
    after.atPath? path ≠ scene.atPath? path := by
  obtain ⟨base, text, checked, children, hbefore, hafter⟩ := h.box
  rw [hbefore, hafter]
  cases checked <;> simp

end Scene

namespace Session

/-! ## The one call -/

/-- The session with a scene on the stage. -/
def withScene (s : Session n κ α γ) (scene : Scene) : Session n κ α γ :=
  s.setStage { s.engine.stage with scene := some scene }

/-- How an event ends, once it has come to an actor: the scene is on the stage, and
the action in question, if there is one, is sent to a controller, if there is one. -/
structure Sends (cast : κ → Controller κ α γ) (s : Session n κ α γ) (scene : Scene)
    (action : Option String) (happened : Trace n κ α γ) (outcome : Bool × Session n κ α γ) :
    Prop where
  /-- An action is sent to the controller of the name that the scene declares, or
  else to the root: it is called once, and all that follows is the render of what it
  asked for, in which controllers are told of exits and entries only. -/
  sent : ∀ name controller, action = some name →
    (scene.controller.bind s.scope.controller?).or s.scope.root = some controller →
      outcome.1 = true ∧ ∃ after,
        happened = .told controller (.action name) (s.cue scene) :: after ∧
        Heeds cast (s.tell cast controller (.action name) scene)
          (s.heard cast controller (.action name) scene).requested after outcome.2 ∧
        ∀ told ∈ Trace.calls after, told.occasion.waits = true
  /-- Without an action or a controller nothing happens. -/
  unsent : action = none ∨ (scene.controller.bind s.scope.controller?).or s.scope.root = none →
    outcome = (false, s.withScene scene) ∧ happened = []

section Delivery

variable {s : Session n κ α γ} {scene : Scene}

theorem withScene_self (hscene : s.engine.stage.scene = some scene) : s.withScene scene = s := by
  rw [withScene, ← hscene]
  rfl

theorem clicked_eq (hscene : s.engine.stage.scene = some scene) (path : List Nat)
    (event : String) : s.clicked scene path event = s.withScene (scene.marked path event) := by
  unfold clicked Scene.marked
  split
  · rfl
  · exact (withScene_self hscene).symm

/-- What is heeded is told of entries and exits only. -/
theorem Heeds.waits_of_calls_mem {cast : κ → Controller κ α γ} {s s' : Session n κ α γ}
    {requested : Option String} {t : Trace n κ α γ} (h : Heeds cast s requested t s') :
    ∀ told ∈ Trace.calls t, told.occasion.waits = true := by
  intro told htold
  obtain ⟨happening, hmem, htold⟩ := List.mem_filterMap.1 htold
  cases happening with
  | told controller occasion cue =>
    cases htold
    exact h.waits_of_told_mem hmem
  | _ => cases htold

/-- Without an action nothing is sent. -/
theorem sends_none (cast : κ → Controller κ α γ) (s : Session n κ α γ) (scene : Scene) :
    s.Sends cast scene none [] (false, s.withScene scene) where
  sent _ _ hnone _ := nomatch hnone
  unsent _ := ⟨rfl, rfl⟩

/-- An action is sent about the scene on the stage. -/
theorem sends_dispatch (cast : κ → Controller κ α γ) (s : Session n κ α γ) (scene : Scene)
    (action : String) :
    s.Sends cast scene (some action)
      ((s.withScene scene).consultTrace cast (s.withScene scene).actionController?
        (.action action))
      ((s.withScene scene).dispatch cast action) where
  sent name controller hname hcontroller := by
    cases hname
    have hgoes : (s.withScene scene).actionController? = some controller := hcontroller
    rw [dispatch, hgoes]
    have hheeds := heeds_follow cast (s.tell cast controller (.action action) scene)
      (s.heard cast controller (.action action) scene).requested
    exact ⟨rfl, _, rfl, hheeds, hheeds.waits_of_calls_mem⟩
  unsent hnone := by
    have hnobody : (s.withScene scene).actionController? = none :=
      hnone.resolve_left (fun h => nomatch h)
    rw [dispatch, hnobody]
    exact ⟨rfl, rfl⟩

/-- **An event for the actor at a path** has its mark turned over first, and then
its action sent. -/
theorem sends_firePath (cast : κ → Controller κ α γ)
    (hscene : s.engine.stage.scene = some scene) {path : List Nat} {actor : Actor}
    (hactor : scene.atPath? path = some actor) (event : String) :
    s.Sends cast (scene.marked path event) (actor.base.binding? event)
      (s.firePathTrace cast path event) (s.firePath cast path event) := by
  have hfound : (s.engine.stage.scene.bind fun scene => (scene.atPath? path).map (scene, ·)) =
      some (scene, actor) := by
    rw [hscene, Option.bind_some, hactor, Option.map_some]
  have hclicked := clicked_eq hscene path event
  unfold clicked at hclicked
  simp only [firePathTrace, firePath, hfound, clicked, hclicked]
  cases actor.base.binding? event with
  | none => exact sends_none cast s _
  | some action => exact sends_dispatch cast s _ action

/-- An event at a point is one for the actor that it goes to. -/
theorem fireAt_of_hit (cast : κ → Controller κ α γ) (hscene : s.engine.stage.scene = some scene)
    {point : Vec2} {path : List Nat} (hhit : scene.hit? point = some path) (event : String) :
    s.fireAt cast point event = s.firePath cast (scene.target event path) event ∧
      s.fireAtTrace cast point event =
        s.firePathTrace cast (scene.target event path) event := by
  have hfound : (s.engine.stage.scene.bind fun scene => (scene.hit? point).map (scene, ·)) =
      some (scene, path) := by
    rw [hscene, Option.bind_some, hhit, Option.map_some]
  rw [fireAt, fireAtTrace, hfound, Scene.target, ← Scene.bindingPath?_eq]
  exact ⟨rfl, rfl⟩

/-- **Events are delivered.** Where a scene is on the stage, an event at a point
sends the action of the innermost actor on the path of the hit that binds it, and
an event for a name that of the first actor of the name; each sends it once, to one
controller, and answers whether it did. Before that the mark of one check box may
have been turned over, by a click, and nothing else was done. -/
theorem events_delivered (cast : κ → Controller κ α γ)
    (hscene : s.engine.stage.scene = some scene) (event : String) :
    (∀ point, ∃ after, scene.Marks event after ∧
      s.Sends cast after (scene.actionAt? point event) (s.fireAtTrace cast point event)
        (s.fireAt cast point event)) ∧
    ∀ name, ∃ after, scene.Marks event after ∧
      s.Sends cast after (scene.actionOf? name event) (s.fireTrace cast name event)
        (s.fire cast name event) := by
  have hnothing : s.Sends cast scene none [] (false, s) := by
    have h := sends_none cast s scene
    rwa [withScene_self hscene] at h
  constructor
  · intro point
    rw [Scene.actionAt?]
    cases hhit : scene.hit? point with
    | none =>
      refine ⟨scene, .inl rfl, ?_⟩
      simp only [fireAt, fireAtTrace, hscene, hhit, Option.bind_some, Option.bind_none,
        Option.map_none]
      exact hnothing
    | some path =>
      obtain ⟨-, actor, -, -, hactor, -⟩ := ((scene.hit?_last_painted point).2 path).1 hhit
      obtain ⟨-, receiver, hreceiver, hbinding⟩ := Scene.target_spec event hactor
      obtain ⟨hfire, htrace⟩ := fireAt_of_hit cast hscene hhit event
      refine ⟨scene.marked (scene.target event path) event, scene.marks_marked _ _, ?_⟩
      rw [hfire, htrace, Option.bind_some, ← hbinding]
      exact sends_firePath cast hscene hreceiver event
  · intro name
    have hpath : scene.pathOf? name = (scene.painted.find? (Actor.bears name)).map (·.1) :=
      Actor.pathFrom?_eq_find? name 0 scene.actors
    rw [Scene.actionOf?]
    cases hfirst : scene.painted.find? (Actor.bears name) with
    | none =>
      refine ⟨scene, .inl rfl, ?_⟩
      simp only [fire, fireTrace, hscene, hpath, hfirst, Option.bind_some, Option.bind_none,
        Option.map_none]
      exact hnothing
    | some entry =>
      obtain ⟨hactor, -, -⟩ := Actor.first_of_find? hfirst
      refine ⟨scene.marked entry.1 event, scene.marks_marked _ _, ?_⟩
      simp only [fire, fireTrace, hscene, hpath, hfirst, Option.bind_some, Option.map_some]
      exact sends_firePath cast hscene hactor event

end Delivery

/-- A controller that writes the actions down. -/
def clerk : Controller Unit SkinAssets (List String) where
  action name cue := { cue with host := cue.host ++ [name] }

/-- An engine with a check box on its stage, within a group that binds the click. -/
def desk : Session 1 Unit SkinAssets (List String) :=
  let index := "<stage><scene name='hall' controller='clerk'>" ++
    "<group width='100' height='100' onClick='open'>" ++
    "<checkBox name='agree' width='20' height='20'/></group></scene></stage>"
  (solo {} (MemorySource.load [("index.xml", index)]) {} []).run (fun _ => clerk)
    [.register "clerk" (), .loadStage]

/-- The box is hit, and it is not marked; the click is for the group. -/
theorem exists_scene_desk : ∃ scene, desk.engine.stage.scene = some scene ∧
    scene.hit? ⟨5, 5⟩ = some [0, 0] ∧ scene.mark? [0, 0] = some false ∧
    scene.actionAt? ⟨5, 5⟩ "CLICK" = some "open" := by
  have hfacts : (desk.engine.stage.scene.map fun scene =>
      let point := scene.base.bounds.toLocal ⟨5, 5⟩
      (scene.actors.map fun outer => (Actor.isHit outer.base point, outer.children.map fun inner =>
        (Actor.isHit inner.base (outer.base.bounds.toLocal point), inner.children.length)),
        scene.mark? [0, 0],
        (scene.binder? "CLICK" [0, 0]).bind (·.2.base.binding? "CLICK"))) =
      some ([(true, [(true, 0)])], some false, some "open") := by decide +kernel
  obtain ⟨scene, hscene, hfacts⟩ := Option.map_eq_some_iff.1 hfacts
  simp only [Prod.mk.injEq] at hfacts
  obtain ⟨hshape, hmark, hopens⟩ := hfacts
  have hhit : scene.hit? ⟨5, 5⟩ = some [0, 0] := Actor.hit?_of_nested hshape
  refine ⟨scene, hscene, hhit, hmark, ?_⟩
  rw [Scene.actionAt?, hhit, Option.bind_some, hopens]

/-- A click in the box opens the desk; a click for the name of the box does not. -/
theorem events_delivered_desk : ∃ scene, desk.engine.stage.scene = some scene ∧
    scene.actionAt? ⟨5, 5⟩ "CLICK" = some "open" ∧
    (∀ point, ∃ after, scene.Marks "CLICK" after ∧
      desk.Sends (fun _ => clerk) after (scene.actionAt? point "CLICK")
        (desk.fireAtTrace (fun _ => clerk) point "CLICK")
        (desk.fireAt (fun _ => clerk) point "CLICK")) ∧
    ∀ name, ∃ after, scene.Marks "CLICK" after ∧
      desk.Sends (fun _ => clerk) after (scene.actionOf? name "CLICK")
        (desk.fireTrace (fun _ => clerk) name "CLICK")
        (desk.fire (fun _ => clerk) name "CLICK") := by
  obtain ⟨scene, hscene, -, -, hopens⟩ := exists_scene_desk
  exact ⟨scene, hscene, hopens, events_delivered (fun _ => clerk) hscene "CLICK"⟩

section Delivery

variable {s : Session n κ α γ} {scene : Scene}

/-- **A click turns over the check box that is hit exactly when it goes to it**: when
the box binds the click itself, or nothing on the path of the hit does. Otherwise the
box stays as it is, and the action of an actor around it is sent. -/
theorem turned_fireAt_iff (cast : κ → Controller κ α γ) {point : Vec2} {path : List Nat}
    {base : Base} {text : String} {checked : Bool} {children : List Actor} {event : String}
    (hscene : s.engine.stage.scene = some scene) (hhit : scene.hit? point = some path)
    (hbox : scene.atPath? path = some ⟨base, .checkBox text checked, children⟩)
    (hevent : Text.alike event "click" = true) :
    ∃ after, s.Sends cast after (scene.actionAt? point event) (s.fireAtTrace cast point event)
        (s.fireAt cast point event) ∧
      (scene.Turned path after ↔ (base.binding? event).isSome ∨
        ∀ entry ∈ scene.along path, entry.2.base.binding? event = none) ∧
      (¬ scene.Turned path after → after.atPath? path = scene.atPath? path ∧
        (scene.actionAt? point event).isSome) := by
  obtain ⟨hbegins, receiver, hreceiver, hbinding⟩ := Scene.target_spec event hbox
  obtain ⟨hfire, htrace⟩ := fireAt_of_hit cast hscene hhit event
  have haction : scene.actionAt? point event = receiver.base.binding? event := by
    rw [Scene.actionAt?, hhit, Option.bind_some, hbinding]
  have hmarked : scene.marked (scene.target event path) event =
      scene.editAt Actor.toggled (scene.target event path) := if_pos hevent
  have hsends := sends_firePath cast hscene hreceiver event
  rw [← hfire, ← htrace, ← haction, hmarked] at hsends
  refine ⟨_, hsends, ?_⟩
  by_cases htarget : scene.target event path = path
  · have hturned := Scene.turned_editAt hbox
    rw [htarget]
    exact ⟨iff_of_true hturned ((Scene.target_eq_iff hbox).1 htarget),
      fun hnot => absurd hturned hnot⟩
  · -- the actor that the click goes to is around the box, and the box is not around it
    have hkept : (scene.editAt Actor.toggled (scene.target event path)).atPath? path =
        scene.atPath? path :=
      Actor.atPath?_editAt_of_not_prefix
        (fun h => htarget (hbegins.eq_of_length_le h.length_le)) fun actor _ =>
          actor.children_toggled
    refine ⟨iff_of_false (fun h => h.ne hkept) fun h =>
      htarget ((Scene.target_eq_iff hbox).2 h), fun _ => ⟨hkept, ?_⟩⟩
    cases hbinder : scene.binder? event path with
    | none => exact absurd (by rw [Scene.target, hbinder]; rfl) htarget
    | some entry =>
      rw [Scene.actionAt?, hhit, Option.bind_some, hbinder]
      exact (Scene.binder?_some hbinder).2.2

end Delivery

/-- The box on the desk leaves the click to the group. -/
theorem turned_fireAt_iff_desk : ∃ scene base text children,
    desk.engine.stage.scene = some scene ∧ scene.hit? ⟨5, 5⟩ = some [0, 0] ∧
    scene.atPath? [0, 0] = some ⟨base, .checkBox text false, children⟩ ∧
    Text.alike "Click" "click" = true ∧
    ∃ after, desk.Sends (fun _ => clerk) after (scene.actionAt? ⟨5, 5⟩ "Click")
        (desk.fireAtTrace (fun _ => clerk) ⟨5, 5⟩ "Click")
        (desk.fireAt (fun _ => clerk) ⟨5, 5⟩ "Click") ∧
      (scene.Turned [0, 0] after ↔ (base.binding? "Click").isSome ∨
        ∀ entry ∈ scene.along [0, 0], entry.2.base.binding? "Click" = none) ∧
      (¬ scene.Turned [0, 0] after → after.atPath? [0, 0] = scene.atPath? [0, 0] ∧
        (scene.actionAt? ⟨5, 5⟩ "Click").isSome) := by
  obtain ⟨scene, hscene, hhit, hmark, -⟩ := exists_scene_desk
  obtain ⟨base, text, children, hbox⟩ := Scene.exists_of_mark? hmark
  have hevent : Text.alike "Click" "click" = true := by decide
  exact ⟨scene, base, text, children, hscene, hhit, hbox, hevent,
    turned_fireAt_iff (fun _ => clerk) hscene hhit hbox hevent⟩

/-- **A click passes its box by.** The check box on the desk is hit, the action of
the group around it is sent, and the box is as unmarked as it was. -/
theorem not_turned_desk :
    desk.Reachable ∧
      desk.engine.stage.scene.bind (·.hit? ⟨5, 5⟩) = some [0, 0] ∧
      desk.engine.stage.scene.bind (·.mark? [0, 0]) = some false ∧
      (desk.fireAt (fun _ => clerk) ⟨5, 5⟩ "click").1 = true ∧
      (desk.fireAt (fun _ => clerk) ⟨5, 5⟩ "click").2.world.host = ["open"] ∧
      (desk.fireAt (fun _ => clerk) ⟨5, 5⟩ "click").2.engine.stage.scene.bind (·.mark? [0, 0]) =
        some false := by
  have hreachable : desk.Reachable := Reachable.run (.fresh ..) _ _
  obtain ⟨scene, hscene, hhit, hmark, -⟩ := exists_scene_desk
  have hfire : desk.fireAt (fun _ => clerk) ⟨5, 5⟩ "click" = desk.firePath (fun _ => clerk)
      ((desk.engine.stage.scene.bind fun scene =>
        bindingPath? scene "click" [0, 0] 2).getD [0, 0]) "click" := by
    rw [(fireAt_of_hit (fun _ => clerk) hscene hhit "click").1, Scene.target,
      ← Scene.bindingPath?_eq, hscene]
    rfl
  have hfired : (let fired := desk.fireAt (fun _ => clerk) ⟨5, 5⟩ "click"
      (fired.1, fired.2.world.host, fired.2.engine.stage.scene.bind (·.mark? [0, 0]))) =
      (true, ["open"], some false) := by
    rw [hfire]
    decide +kernel
  simp only [Prod.mk.injEq] at hfired
  refine ⟨hreachable, ?_, ?_, hfired⟩
  · rw [hscene, Option.bind_some, hhit]
  · rw [hscene, Option.bind_some, hmark]

end Session

end SceneScript
