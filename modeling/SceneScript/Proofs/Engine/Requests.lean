import SceneScript.Proofs.Engine.Trace
/-!
# Engine — the scenes that hooks ask for

A hook may ask for a scene. What it asks for on a frame or an action is
rendered in the same call, which ends with it. What it asks for when its scene
enters or leaves has to wait: an engine keeps one such name, the last, and
every frame begins by taking it out and rendering it, with or without success.

So a command is a render it begins with (`opening`), if any, and the telling of
a controller, if any, with the render that follows from it (`Proceeds`). From
one command to the next only the name that waits is handed on (`Course`), and
the accounts of a whole run balance (`requests_served`).
-/

namespace SceneScript

variable {n : Nat} {κ α γ : Type}

/-! ## Asking within a hook -/

/-- What is made of a cue by asking for scenes one after the other, and by
changing everything else at will in between. -/
inductive Cue.Asks : Cue κ α γ → List String → Cue κ α γ → Prop where
  | rest (cue : Cue κ α γ) : Cue.Asks cue [] cue
  | change {cue cue' last : Cue κ α γ} {names : List String} :
      cue'.requested = cue.requested → Cue.Asks cue' names last → Cue.Asks cue names last
  | request {cue last : Cue κ α γ} {names : List String} (name : String) :
      Cue.Asks (cue.request name) names last → Cue.Asks cue (name :: names) last

/-- **What is asked for last stands.** -/
theorem Cue.Asks.requested {cue last : Cue κ α γ} {names : List String}
    (h : cue.Asks names last) : last.requested = names.getLast?.or cue.requested := by
  induction h with
  | rest cue => rfl
  | change hkept _ ih => rw [ih, hkept]
  | @request cue last names name _ ih =>
    rw [ih, List.getLast?_cons]
    cases names.getLast? <;> rfl

/-! ## Attempts and requests -/

/-- Whether what is asked for on an occasion waits for the next frame. -/
def Occasion.waits : Occasion → Bool
  | .enter => true
  | .exit => true
  | _ => false

namespace Happening

/-- The name that is to be rendered, where one is. -/
def attempt? : Happening n κ α γ → Option String
  | asked name => some name
  | _ => none

/-- The name that a hook asks for, on an occasion of the kind that waits or of
the kind that does not. -/
def request? (cast : κ → Controller κ α γ) (waits : Bool) : Happening n κ α γ → Option String
  | told controller occasion cue =>
    if occasion.waits = waits then ((cast controller).hook occasion cue).requested else none
  | _ => none

/-- What can happen in the course of a render: no other render is tried, and
hooks are told of entries and exits only. -/
def InRender : Happening n κ α γ → Prop
  | asked _ => False
  | told _ occasion _ => occasion.waits = true
  | _ => True

end Happening

namespace Trace

variable {cast : κ → Controller κ α γ} {waits : Bool} {t u : Trace n κ α γ}

/-- The names that were to be rendered. -/
def attempts (trace : Trace n κ α γ) : List String :=
  trace.filterMap Happening.attempt?

/-- The names that hooks asked for, on occasions of one kind. -/
def requests (cast : κ → Controller κ α γ) (waits : Bool) (trace : Trace n κ α γ) :
    List String :=
  trace.filterMap (Happening.request? cast waits)

@[simp] theorem attempts_append (t u : Trace n κ α γ) :
    attempts (t ++ u) = attempts t ++ attempts u := List.filterMap_append

@[simp] theorem requests_append (cast : κ → Controller κ α γ) (waits : Bool)
    (t u : Trace n κ α γ) :
    requests cast waits (t ++ u) = requests cast waits t ++ requests cast waits u :=
  List.filterMap_append

/-- In the course of a render no other is tried. -/
theorem attempts_of_inRender (h : ∀ e ∈ t, e.InRender) : attempts t = [] := by
  refine List.filterMap_eq_nil_iff.2 fun e he => ?_
  cases e with
  | asked name => exact (h _ he).elim
  | _ => rfl

/-- In the course of a render every request waits. -/
theorem requests_of_inRender (h : ∀ e ∈ t, e.InRender) : requests cast false t = [] := by
  refine List.filterMap_eq_nil_iff.2 fun e he => ?_
  cases e with
  | told controller occasion cue =>
    have hwaits : occasion.waits = true := h _ he
    simp [Happening.request?, hwaits]
  | _ => rfl

/-- Where no hook is told, none asks. -/
theorem requests_of_calls (h : calls t = []) : requests cast waits t = [] := by
  refine List.filterMap_eq_nil_iff.2 fun e he => ?_
  have htold := List.filterMap_eq_nil_iff.1 h e he
  cases e with
  | told controller occasion cue => cases htold
  | _ => rfl

end Trace

namespace Session

variable {cast : κ → Controller κ α γ} {s r s' : Session n κ α γ} {t u : Trace n κ α γ}

/-! ## What waits -/

/-- What waits after a stretch of happenings is the last name that was to wait,
and where there was none, what waited before. -/
def Posts (cast : κ → Controller κ α γ) (s : Session n κ α γ) (t : Trace n κ α γ)
    (s' : Session n κ α γ) : Prop :=
  s'.engine.pending = (Trace.requests cast true t).getLast?.or s.engine.pending

theorem Posts.trans (h : Posts cast s t r) (h' : Posts cast r u s') : Posts cast s (t ++ u) s' := by
  rw [Posts] at *
  rw [h', h, Trace.requests_append, List.getLast?_append, Option.or_assoc]

/-- What happens without a request leaves what waits. -/
theorem Posts.of_eq (ht : Trace.requests cast true t = [])
    (h : s'.engine.pending = s.engine.pending) : Posts cast s t s' := by
  rw [Posts, ht, h]
  rfl

theorem posts_leave (cast : κ → Controller κ α γ) (s : Session n κ α γ) :
    Posts cast s s.leaveTrace (s.leave cast) := by
  rcases leave_cases cast s with ⟨hnone, hleft⟩ | ⟨scene, controller, hscene, hcontroller, hleft⟩
  · rw [leaveTrace_of_none hnone, hleft]
    exact .of_eq rfl rfl
  · rw [leaveTrace_of_some hscene hcontroller, hleft, Posts]
    cases hasked : ((cast controller).exit (s.cue scene)).requested <;>
      simp [Trace.requests, Happening.request?, Occasion.waits, Controller.hook, hasked, setPending,
        setStage, resume, setPhase]

theorem posts_enter (cast : κ → Controller κ α γ) (s : Session n κ α γ) (scene : Scene) :
    Posts cast s (s.enterTrace scene) (s.enter cast scene).2 := by
  unfold enterTrace enter
  cases s.scope.current with
  | none => exact .of_eq rfl rfl
  | some entry =>
    simp only [runHook_eq, Posts]
    cases hasked : ((cast entry.2).enter (s.cue scene)).requested <;>
      simp [Trace.requests, Happening.request?, Occasion.waits, Controller.hook, hasked, setPending,
        resume]

theorem posts_raise (cast : κ → Controller κ α γ) (s : Session n κ α γ) (name : String)
    (definition : Markup.Node) :
    Posts cast s (s.raiseTrace cast name definition) (s.raise cast name definition) := by
  have hentered := posts_enter cast ((s.assemble name definition).2.setPhase .built)
    (s.assemble name definition).1
  have hattached : Posts cast (s.entered cast name definition).2
      [.shown (s.entered cast name definition).1] (s.raise cast name definition) :=
    .of_eq rfl rfl
  exact hentered.trans hattached

theorem posts_showScene (cast : κ → Controller κ α γ) (s : Session n κ α γ) (name : String) :
    Posts cast s (s.showTrace cast name) (s.showScene cast name).2 := by
  unfold showTrace showScene
  cases s.findScene? name with
  | none => exact .of_eq rfl rfl
  | some found => exact (posts_leave cast s).trans (posts_raise cast _ found.1 found.2)

/-- **A render hands on what waits**, or what its scenes have asked for. -/
theorem posts_switchTo (cast : κ → Controller κ α γ) (s : Session n κ α γ) (name : String) :
    Posts cast s (s.renderTrace cast name) (s.switchTo cast name) := by
  rw [switchTo_eq, renderTrace]
  split
  · cases s.readDocument name with
    | error e => exact .of_eq rfl rfl
    | ok read =>
      obtain ⟨imports, hopened⟩ := exists_engine_openDocument s read.1
      have hkept : Posts cast s [.asked name, .opened read.1 s s.loadLibraries]
          (s.openDocument read.1) := .of_eq rfl (by rw [hopened])
      exact hkept.trans (posts_showScene cast _ read.2)
  · have hasked : Posts cast s [.asked name] s := .of_eq rfl rfl
    exact hasked.trans (posts_showScene cast s name)

/-! ## Renders that follow from a request -/

/-- What was asked for, if anything, is rendered, and nothing is done besides. -/
inductive Heeds (cast : κ → Controller κ α γ) :
    Session n κ α γ → Option String → Trace n κ α γ → Session n κ α γ → Prop where
  | nothing (s : Session n κ α γ) : Heeds cast s none [] s
  | render (s : Session n κ α γ) (name : String) :
      Heeds cast s (some name) (s.renderTrace cast name) (s.switchTo cast name)

theorem heeds_follow (cast : κ → Controller κ α γ) (s : Session n κ α γ)
    (requested : Option String) :
    Heeds cast s requested (s.followTrace cast requested) (s.follow cast requested) := by
  cases requested with
  | none => exact .nothing s
  | some name => exact .render s name

theorem inRender_leaveTrace (s : Session n κ α γ) : ∀ e ∈ s.leaveTrace, e.InRender := by
  unfold leaveTrace
  split
  · exact List.forall_mem_singleton.2 rfl
  · exact List.forall_mem_nil _

theorem inRender_enterTrace (s : Session n κ α γ) (scene : Scene) :
    ∀ e ∈ s.enterTrace scene, e.InRender := by
  unfold enterTrace
  split
  · exact List.forall_mem_singleton.2 rfl
  · exact List.forall_mem_nil _

theorem inRender_showTrace (cast : κ → Controller κ α γ) (s : Session n κ α γ) (name : String) :
    ∀ e ∈ s.showTrace cast name, e.InRender := by
  unfold showTrace
  split
  · exact List.forall_mem_nil _
  · simp only [switchTrace, raiseTrace, List.forall_mem_append, List.forall_mem_cons]
    exact ⟨inRender_leaveTrace s, trivial, inRender_enterTrace _ _, trivial, List.forall_mem_nil _⟩

/-- A render begins with the attempt; the rest is the course it takes. -/
theorem exists_renderTrace (cast : κ → Controller κ α γ) (s : Session n κ α γ) (name : String) :
    ∃ rest, s.renderTrace cast name = .asked name :: rest ∧ ∀ e ∈ rest, e.InRender := by
  refine ⟨_, rfl, ?_⟩
  split
  · split
    · exact List.forall_mem_nil _
    · exact List.forall_mem_cons.2 ⟨trivial, inRender_showTrace cast _ _⟩
  · exact inRender_showTrace cast s name

/-- A scene that leaves is told once at most, and so is one that enters. -/
theorem calls_showTrace_le (cast : κ → Controller κ α γ) (s : Session n κ α γ) (name : String) :
    (Trace.calls (s.showTrace cast name)).length ≤ 2 := by
  have hleft : (Trace.calls s.leaveTrace).length ≤ 1 := by
    unfold leaveTrace
    split <;> simp [Trace.calls, Happening.told?]
  have hentered (r : Session n κ α γ) (scene : Scene) :
      (Trace.calls (r.enterTrace scene)).length ≤ 1 := by
    unfold enterTrace
    split <;> simp [Trace.calls, Happening.told?]
  unfold showTrace
  split
  · simp [Trace.calls]
  next name definition _ =>
    rw [switchTrace, Trace.calls_append, calls_raiseTrace, List.length_append]
    exact Nat.add_le_add hleft (hentered _ _)

namespace Heeds

variable {requested : Option String}

/-- **What is asked for is tried once.** -/
theorem attempts (h : Heeds cast s requested t s') : Trace.attempts t = requested.toList := by
  cases h with
  | nothing => rfl
  | render name =>
    obtain ⟨rest, hrender, hrest⟩ := exists_renderTrace cast s name
    rw [hrender, Trace.attempts, List.filterMap_cons]
    simp only [Happening.attempt?]
    rw [← Trace.attempts, Trace.attempts_of_inRender hrest]
    rfl

/-- Hooks are told of entries and exits only. -/
theorem waits_of_told_mem (h : Heeds cast s requested t s') {controller : κ} {occasion : Occasion}
    {cue : Cue κ α γ} (hmem : .told controller occasion cue ∈ t) : occasion.waits = true := by
  cases h with
  | nothing => cases hmem
  | render name =>
    obtain ⟨rest, hrender, hrest⟩ := exists_renderTrace cast s name
    rw [hrender, List.mem_cons] at hmem
    exact hmem.elim (fun heq => nomatch heq) (hrest _)

theorem requests (h : Heeds cast s requested t s') : Trace.requests cast false t = [] := by
  cases h with
  | nothing => rfl
  | render name =>
    obtain ⟨rest, hrender, hrest⟩ := exists_renderTrace cast s name
    rw [hrender]
    change Trace.requests cast false rest = []
    exact Trace.requests_of_inRender hrest

theorem posts (h : Heeds cast s requested t s') : Posts cast s t s' := by
  cases h with
  | nothing => exact .of_eq rfl rfl
  | render name => exact posts_switchTo cast s name

theorem calls_le (h : Heeds cast s requested t s') : (Trace.calls t).length ≤ 2 := by
  cases h with
  | nothing => exact Nat.zero_le 2
  | render name =>
    change (Trace.calls (if _ then _ else _)).length ≤ 2
    split
    · split
      · exact Nat.zero_le 2
      · exact calls_showTrace_le cast _ _
    · exact calls_showTrace_le cast s name

end Heeds

/-! ## Controllers that are told of frames and actions -/

/-- A controller was told of a frame or an action, and what it asked for was
rendered; or nothing was done. -/
inductive Consults (cast : κ → Controller κ α γ) :
    Session n κ α γ → Trace n κ α γ → Session n κ α γ → Prop where
  | nothing (s : Session n κ α γ) : Consults cast s [] s
  | told {s s' : Session n κ α γ} {t : Trace n κ α γ} (controller : κ) (occasion : Occasion)
      (scene : Scene) : occasion.waits = false →
      Heeds cast (s.tell cast controller occasion scene)
        (s.heard cast controller occasion scene).requested t s' →
      Consults cast s (.told controller occasion (s.cue scene) :: t) s'

/-- A controller was told something, and all that happens after it is the render
of what it asked for. -/
def Grants (cast : κ → Controller κ α γ) (controller : κ) (occasion : Occasion) (cue : Cue κ α γ)
    (after : Trace n κ α γ) (s' : Session n κ α γ) : Prop :=
  ∃ (s : Session n κ α γ) (scene : Scene), cue = s.cue scene ∧
    Heeds cast (s.tell cast controller occasion scene)
      ((cast controller).hook occasion cue).requested after s'

theorem consults_consult (s : Session n κ α γ) (controller : Option κ) (occasion : Occasion)
    (h : occasion.waits = false) :
    Consults cast s (s.consultTrace cast controller occasion)
      (s.consult cast controller occasion) := by
  unfold consultTrace consult
  cases s.engine.stage.scene with
  | none => exact .nothing s
  | some scene =>
    cases controller with
    | none => exact .nothing s
    | some controller => exact .told controller occasion scene h (heeds_follow cast _ _)

namespace Consults

/-- **What a controller asks for is tried once**, and nothing else is. -/
theorem attempts (h : Consults cast s t s') :
    Trace.attempts t = Trace.requests cast false t := by
  cases h with
  | nothing => rfl
  | told controller occasion scene hwaits hheeds =>
    have hrequest :
        (Happening.told (n := n) controller occasion (s.cue scene)).request? cast false =
          (s.heard cast controller occasion scene).requested := if_pos hwaits
    rw [Trace.attempts, Trace.requests, List.filterMap_cons, List.filterMap_cons, hrequest,
      ← Trace.attempts, ← Trace.requests, hheeds.attempts, hheeds.requests]
    cases (s.heard cast controller occasion scene).requested <;> rfl

theorem posts (h : Consults cast s t s') : Posts cast s t s' := by
  cases h with
  | nothing => exact .of_eq rfl rfl
  | told controller occasion scene hwaits hheeds =>
    have htold : Posts cast s [.told controller occasion (s.cue scene)]
        (s.tell cast controller occasion scene) := by
      refine .of_eq ?_ rfl
      simp [Trace.requests, Happening.request?, hwaits]
    exact htold.trans hheeds.posts

theorem calls_le (h : Consults cast s t s') : (Trace.calls t).length ≤ 3 := by
  cases h with
  | nothing => exact Nat.zero_le 3
  | told controller occasion scene hwaits hheeds => exact Nat.succ_le_succ hheeds.calls_le

theorem attempts_le (h : Consults cast s t s') : (Trace.attempts t).length ≤ 1 := by
  cases h with
  | nothing => exact Nat.zero_le 1
  | @told _ rest controller occasion scene hwaits hheeds =>
    have htold : Trace.attempts (.told controller occasion (s.cue scene) :: rest) =
        Trace.attempts rest := rfl
    rw [htold, hheeds.attempts]
    exact Option.length_toList_le

/-- Whoever is told of a frame or an action is told first, and all that follows
is the render of what it asked for. -/
theorem grants (h : Consults cast s t s') {before after : Trace n κ α γ}
    {controller : κ} {occasion : Occasion} {cue : Cue κ α γ} (hwaits : occasion.waits = false)
    (ht : t = before ++ .told controller occasion cue :: after) :
    Grants cast controller occasion cue after s' := by
  cases h with
  | nothing => simp at ht
  | told controller' occasion' scene hwaits' hheeds =>
    cases before with
    | nil =>
      cases ht
      exact ⟨s, scene, rfl, hheeds⟩
    | cons e before =>
      cases ht
      have hwaits'' := hheeds.waits_of_told_mem (List.mem_append_right _ List.mem_cons_self)
      cases hwaits.symm.trans hwaits''

end Consults

/-- An event that is delivered to the actor at a path consults a controller. -/
theorem consults_firePath (cast : κ → Controller κ α γ) (s : Session n κ α γ) (path : List Nat)
    (event : String) :
    ∃ acted : Session n κ α γ, acted.engine.pending = s.engine.pending ∧
      acted.Consults cast (s.firePathTrace cast path event) (s.firePath cast path event).2 := by
  unfold firePathTrace firePath
  cases s.engine.stage.scene.bind fun scene => (scene.atPath? path).map (scene, ·) with
  | none => exact ⟨s, rfl, .nothing s⟩
  | some hit =>
    obtain ⟨scene, actor⟩ := hit
    let acted := s.clicked scene path event
    refine ⟨acted, ?_, ?_⟩
    · change (s.clicked scene path event).engine.pending = _
      unfold clicked
      split <;> rfl
    · dsimp only
      cases actor.base.binding? event with
      | none => exact .nothing acted
      | some action =>
        simp only [dispatch_eq]
        exact consults_consult acted _ (.action action) rfl

/-- An event that is delivered to an actor, if there is one, consults a
controller. -/
theorem consults_fire (cast : κ → Controller κ α γ) (s : Session n κ α γ)
    (name event : String) :
    ∃ acted : Session n κ α γ, acted.engine.pending = s.engine.pending ∧
      acted.Consults cast (s.fireTrace cast name event) (s.fire cast name event).2 := by
  unfold fireTrace fire
  cases s.engine.stage.scene.bind (·.pathOf? name) with
  | none => exact ⟨s, rfl, .nothing s⟩
  | some path => exact consults_firePath cast s path event

theorem consults_fireAt (cast : κ → Controller κ α γ) (s : Session n κ α γ) (point : Vec2)
    (event : String) :
    ∃ acted : Session n κ α γ, acted.engine.pending = s.engine.pending ∧
      acted.Consults cast (s.fireAtTrace cast point event) (s.fireAt cast point event).2 := by
  unfold fireAtTrace fireAt
  cases s.engine.stage.scene.bind fun scene => (scene.hit? point).map (scene, ·) with
  | none => exact ⟨s, rfl, .nothing s⟩
  | some hit => exact consults_firePath cast s _ event

/-! ## Commands -/

variable [AssetService α]

/-- The name that a command begins by rendering: a frame the one that waits,
and otherwise the one that the host has named. -/
def opening (s : Session n κ α γ) : Command κ → Option String
  | .update _ => s.engine.pending
  | .updateBy _ => s.engine.pending
  | .render name => some name
  | .loadStage =>
    match s.readDocument s.engine.config.indexDocument with
    | .error _ => none
    | .ok (document, start) => (AssetService.load (s.skinned document)).toOption.map fun _ => start
  | _ => none

end Session

/-- Whether a command runs a frame. -/
def Command.IsFrame : Command κ → Bool
  | .update _ => true
  | .updateBy _ => true
  | _ => false

/-- Whether a command delivers an event. -/
def Command.IsEvent : Command κ → Bool
  | .fire .. => true
  | .fireAt .. => true
  | _ => false

theorem Session.opening_of_isFrame [AssetService α] (s : Session n κ α γ) {command : Command κ}
    (h : command.IsFrame = true) : s.opening command = s.engine.pending := by
  cases command <;> first | rfl | cases h

theorem Session.opening_of_isEvent [AssetService α] (s : Session n κ α γ) {command : Command κ}
    (h : command.IsEvent = true) : s.opening command = none := by
  cases command <;> first | rfl | cases h

/-- A command in the course of a run: what the controllers do, the session it is
given to, and the command. -/
structure Turn (n : Nat) (κ α γ : Type) where
  cast : κ → Controller κ α γ
  before : Session n κ α γ
  command : Command κ

namespace Turn

variable [AssetService α] {turn : Turn n κ α γ}

/-- What happens in a turn. -/
def happened (turn : Turn n κ α γ) : Trace n κ α γ :=
  turn.before.performTrace turn.cast turn.command

/-- The session that a turn leaves. -/
def after (turn : Turn n κ α γ) : Session n κ α γ :=
  turn.before.perform turn.cast turn.command

/-- The names that were to be rendered in a turn. -/
def attempts (turn : Turn n κ α γ) : List String :=
  Trace.attempts turn.happened

/-- The names that hooks asked for in a turn, on occasions of one kind. -/
def requests (waits : Bool) (turn : Turn n κ α γ) : List String :=
  Trace.requests turn.cast waits turn.happened

/-- The name that is waiting and not rendered in this turn. -/
def kept (turn : Turn n κ α γ) : Option String :=
  if turn.command.IsFrame then none else turn.before.engine.pending

/-- The name that the host asks for. -/
def hosted (turn : Turn n κ α γ) : Option String :=
  if turn.command.IsFrame then none else turn.before.opening turn.command

/-- The session at the beginning of a frame, once its clock has ticked: what was
waiting waits no more. -/
def roused (turn : Turn n κ α γ) (clock : FrameClock) : Session n κ α γ :=
  { turn.before with engine := { turn.before.engine with clock, pending := none } }

/-- **How a turn goes**: it begins with a prelude and a render; a controller is
told, and what it asks for is rendered. -/
structure Proceeds (turn : Turn n κ α γ)
    (prelude first rest : Trace n κ α γ) (ready rendered acted : Session n κ α γ) : Prop where
  happened_eq : turn.happened = prelude ++ (first ++ rest)
  frame : turn.command.IsFrame → prelude = [] ∧ (∃ clock, ready = turn.roused clock) ∧
    ∃ dt, acted = rendered.setStage (rendered.engine.stage.act dt)
  attempts_prelude : Trace.attempts prelude = []
  calls_prelude : Trace.calls prelude = []
  pending_ready : ready.engine.pending = turn.kept
  heeds : ready.Heeds turn.cast (turn.before.opening turn.command) first rendered
  pending_acted : acted.engine.pending = rendered.engine.pending
  consults : acted.Consults turn.cast rest turn.after

/-- A turn that ends with the render it begins with, if any. -/
theorem Proceeds.ofHost {prelude : Trace n κ α γ} {ready : Session n κ α γ}
    (hframe : turn.command.IsFrame = false) (hattempts : Trace.attempts prelude = [])
    (hcalls : Trace.calls prelude = [])
    (hpending : ready.engine.pending = turn.before.engine.pending)
    (hhappened : turn.happened =
      prelude ++ ready.followTrace turn.cast (turn.before.opening turn.command))
    (hafter : turn.after = ready.follow turn.cast (turn.before.opening turn.command)) :
    turn.Proceeds prelude (ready.followTrace turn.cast (turn.before.opening turn.command)) []
      ready turn.after turn.after where
  happened_eq := by rw [hhappened, List.append_nil]
  frame h := by simp [hframe] at h
  attempts_prelude := hattempts
  calls_prelude := hcalls
  pending_ready := by rw [hpending, kept, hframe]; rfl
  heeds := hafter ▸ Session.heeds_follow turn.cast ready _
  pending_acted := rfl
  consults := .nothing _

/-- A turn in which an event is delivered. -/
theorem Proceeds.ofEvent {acted : Session n κ α γ} (hframe : turn.command.IsFrame = false)
    (hopening : turn.before.opening turn.command = none)
    (hpending : acted.engine.pending = turn.before.engine.pending)
    (hconsults : acted.Consults turn.cast turn.happened turn.after) :
    turn.Proceeds [] [] turn.happened turn.before turn.before acted where
  happened_eq := rfl
  frame h := by simp [hframe] at h
  attempts_prelude := rfl
  calls_prelude := rfl
  pending_ready := by rw [kept, hframe]; rfl
  heeds := hopening ▸ .nothing _
  pending_acted := hpending
  consults := hconsults

/-- A turn that is a frame, on a session `r` whose clock has ticked. -/
theorem Proceeds.ofFrame (turn : Turn n κ α γ) {r : Session n κ α γ} (clock : FrameClock)
    (dt : Float32) (hframe : turn.command.IsFrame = true) (hready : r.awake = turn.roused clock)
    (hpending : r.engine.pending = turn.before.engine.pending)
    (hhappened : turn.happened = r.stepTrace turn.cast dt)
    (hafter : turn.after = r.step turn.cast dt) :
    ∃ first rest rendered acted, turn.Proceeds [] first rest r.awake rendered acted := by
  refine ⟨_, _, r.followPending turn.cast,
    (r.followPending turn.cast).setStage ((r.followPending turn.cast).engine.stage.act dt),
    hhappened, fun _ => ⟨rfl, ⟨clock, hready⟩, dt, rfl⟩, rfl, rfl, ?_, ?_, rfl, ?_⟩
  · rw [kept, hframe]
    rfl
  · rw [turn.before.opening_of_isFrame hframe, ← hpending]
    exact Session.heeds_follow turn.cast r.awake r.engine.pending
  · rw [hafter, Session.step, Session.updateScene_eq]
    exact Session.consults_consult _ _ (.update dt) rfl

/-- Loading the stage comes to the render it begins with, once the index
document is in use. -/
theorem exists_proceeds_loadStage (cast : κ → Controller κ α γ) (s : Session n κ α γ) :
    ∃ prelude first ready rendered, (⟨cast, s, .loadStage⟩ : Turn n κ α γ).Proceeds
      prelude first [] ready rendered rendered := by
  cases hindex : s.readDocument s.engine.config.indexDocument with
  | error e =>
    refine ⟨[], _, s, _, .ofHost rfl rfl rfl rfl ?_ ?_⟩
    · simp only [happened, Session.performTrace, Session.loadStageTrace, Session.opening, hindex]
      rfl
    · simp only [after, Session.perform, Session.loadStage, Session.opening, hindex]
      rfl
  | ok read =>
    cases hloaded : AssetService.load (s.skinned read.1) with
    | error e =>
      refine ⟨[], _, (s.loadStage cast).2, _, .ofHost rfl rfl rfl ?_ ?_ ?_⟩
      · unfold Session.loadStage
        simp only [hindex]
        rw [← Session.skinned, hloaded]
        rfl
      · simp only [happened, Session.performTrace, Session.loadStageTrace, Session.opening, hindex,
          hloaded]
        rfl
      · simp only [after, Session.perform, Session.opening, hindex, hloaded]
        rfl
    | ok assets =>
      obtain ⟨imports, phase, hinstalled⟩ :=
        Session.exists_installDocument (s.setAssets assets).loadLibraries read.1
      refine ⟨[.opened read.1 (s.setAssets assets) (s.setAssets assets).loadLibraries], _,
        s.installed read.1 assets, _, .ofHost rfl rfl rfl ?_ ?_ ?_⟩
      · rw [Session.installed, hinstalled]
        simp only [Session.engine_loadLibraries]
        rfl
      · simp only [happened, Session.performTrace, Session.loadStageTrace, Session.opening, hindex,
          hloaded]
        rfl
      · simp only [after, Session.perform, Session.opening, hindex, hloaded,
          Session.loadStage_of_loaded cast hindex hloaded]
        simp only [Except.toOption, Option.map_some, Session.follow, Session.switchTo]
        cases (s.installed read.1 assets).renderScene cast read.2 <;> rfl

/-- **Every turn goes like that.** -/
theorem exists_proceeds (turn : Turn n κ α γ) :
    ∃ prelude first rest ready rendered acted,
      turn.Proceeds prelude first rest ready rendered acted := by
  obtain ⟨cast, s, command⟩ := turn
  cases command with
  | loadStage =>
    obtain ⟨_, _, _, _, h⟩ := exists_proceeds_loadStage cast s
    exact ⟨_, _, _, _, _, _, h⟩
  | loadFile path =>
    cases hread : s.readDocument path with
    | error e =>
      refine ⟨[], _, _, s, _, _, .ofHost rfl rfl rfl rfl ?_ ?_⟩
      · simp only [happened, Session.performTrace, hread]
        rfl
      · simp only [after, Session.perform, Session.loadFile_eq, hread]
        rfl
    | ok read =>
      obtain ⟨imports, hopened⟩ := Session.exists_engine_openDocument s read.1
      refine ⟨[.opened read.1 s s.loadLibraries], _, _, s.openDocument read.1, _, _,
        .ofHost rfl rfl rfl (by rw [hopened]) ?_ ?_⟩
      · simp only [happened, Session.performTrace, hread]
        rfl
      · simp only [after, Session.perform, Session.loadFile_eq, hread]
        rfl
  | render name => exact ⟨[], _, _, s, _, _, .ofHost rfl rfl rfl rfl rfl rfl⟩
  | update elapsed =>
    let ticked := s.engine.clock.tick elapsed
    obtain ⟨_, _, _, _, h⟩ := Proceeds.ofFrame ⟨cast, s, .update elapsed⟩
      (r := { s with engine := { s.engine with clock := ticked.2 } })
      ticked.2 ticked.1 rfl rfl rfl rfl rfl
    exact ⟨_, _, _, _, _, _, h⟩
  | updateBy seconds =>
    let ticked := s.engine.clock.tick ((nanosOf? seconds).getD 0)
    obtain ⟨_, _, _, _, h⟩ := Proceeds.ofFrame ⟨cast, s, .updateBy seconds⟩
      (r := { s with engine := { s.engine with clock := ticked.2 } })
      ticked.2 ticked.1 rfl rfl rfl rfl rfl
    exact ⟨_, _, _, _, _, _, h⟩
  | fire actor event =>
    obtain ⟨_, hpending, hconsults⟩ := Session.consults_fire cast s actor event
    exact ⟨_, _, _, _, _, _, .ofEvent rfl rfl hpending hconsults⟩
  | fireAt point event =>
    obtain ⟨_, hpending, hconsults⟩ := Session.consults_fireAt cast s point event
    exact ⟨_, _, _, _, _, _, .ofEvent rfl rfl hpending hconsults⟩
  | dispose =>
    exact ⟨[.disposed s.engine.stage], _, _, s.dispose, _, _, .ofHost rfl rfl rfl rfl rfl rfl⟩
  | register name controller =>
    exact ⟨_, _, _, s.perform cast (.register name controller), _, _,
      .ofHost rfl rfl rfl rfl (List.append_nil _).symm rfl⟩

/-! ## How requests fare -/

/-- What waited and was put aside for a later request. -/
def replaced (turn : Turn n κ α γ) : List String :=
  (turn.kept.toList ++ turn.requests true).dropLast

/-- **How a turn deals with what is asked for.** -/
structure Serves (turn : Turn n κ α γ) : Prop where
  /-- A frame renders the name that waits, which waits no more then; the actors act,
  and the controller of the scene is told. -/
  frame : turn.command.IsFrame → ∃ clock dt first rest rendered,
    turn.happened = first ++ rest ∧
      (turn.roused clock).Heeds turn.cast turn.before.engine.pending first rendered ∧
        (rendered.setStage (rendered.engine.stage.act dt)).Consults turn.cast rest turn.after
  /-- What a hook asks for on a frame or an action is rendered next, and that
  ends the turn. -/
  told : ∀ before controller occasion cue after, occasion.waits = false →
    turn.happened = before ++ .told controller occasion cue :: after →
      Session.Grants turn.cast controller occasion cue after turn.after
  /-- Nothing else is tried. -/
  attempts_eq : turn.attempts =
    (turn.before.opening turn.command).toList ++ turn.requests false
  /-- What waits then is the last name that was to wait. What was taken out does
  not come back, whether or not there was a scene of the name. -/
  pending_eq : turn.after.engine.pending = (turn.requests true).getLast?.or turn.kept
  /-- A frame comes to an end, and so does the delivery of an event. -/
  frame_le : turn.command.IsFrame →
    turn.attempts.length ≤ 2 ∧ (Trace.calls turn.happened).length ≤ 5
  event_le : turn.command.IsEvent →
    turn.attempts.length ≤ 1 ∧ (Trace.calls turn.happened).length ≤ 3

section Proceeds

variable {prelude first rest : Trace n κ α γ} {ready rendered acted : Session n κ α γ}

theorem Proceeds.attempts_eq (h : turn.Proceeds prelude first rest ready rendered acted) :
    turn.attempts = (turn.before.opening turn.command).toList ++ turn.requests false := by
  rw [attempts, requests, h.happened_eq, Trace.attempts_append, Trace.attempts_append,
    Trace.requests_append, Trace.requests_append, h.attempts_prelude,
    Trace.requests_of_calls h.calls_prelude, h.heeds.attempts, h.heeds.requests,
    h.consults.attempts]
  rfl

theorem Proceeds.pending_eq (h : turn.Proceeds prelude first rest ready rendered acted) :
    turn.after.engine.pending = (turn.requests true).getLast?.or turn.kept := by
  have hacted : Session.Posts turn.cast rendered [] acted := .of_eq rfl h.pending_acted
  have hposts : Session.Posts turn.cast ready (first ++ ([] ++ rest)) turn.after :=
    h.heeds.posts.trans (hacted.trans h.consults.posts)
  rw [hposts, h.pending_ready, requests, h.happened_eq,
    Trace.requests_append turn.cast true prelude, Trace.requests_of_calls h.calls_prelude]
  rfl

/-- Whoever is told of a frame or an action is told after all renders before. -/
theorem Proceeds.told (h : turn.Proceeds prelude first rest ready rendered acted)
    {before after : Trace n κ α γ} {controller : κ} {occasion : Occasion} {cue : Cue κ α γ}
    (hwaits : occasion.waits = false)
    (hhappened : turn.happened = before ++ .told controller occasion cue :: after) :
    Session.Grants turn.cast controller occasion cue after turn.after := by
  -- the prelude calls no hook, and the first render tells of entries and exits only
  have hbefore : ∀ e ∈ prelude ++ first, e ≠ .told controller occasion cue := by
    rintro e he rfl
    rcases List.mem_append.1 he with he | he
    · cases List.filterMap_eq_nil_iff.1 h.calls_prelude _ he
    · cases hwaits.symm.trans (h.heeds.waits_of_told_mem he)
  rw [h.happened_eq, ← List.append_assoc] at hhappened
  rcases List.append_eq_append_iff.1 hhappened with
    ⟨skipped, -, hrest⟩ | ⟨skipped, hfirst, hskipped⟩
  · exact h.consults.grants hwaits hrest
  · cases skipped with
    | nil =>
      have hrest : rest = [] ++ .told controller occasion cue :: after := hskipped.symm
      exact h.consults.grants hwaits hrest
    | cons e skipped =>
      cases hskipped
      exact (hbefore _ (hfirst ▸ List.mem_append_right _ List.mem_cons_self) rfl).elim

/-- **Every turn deals with what is asked for.** -/
theorem Proceeds.serves (h : turn.Proceeds prelude first rest ready rendered acted) :
    turn.Serves := by
  have hattempts : turn.attempts.length =
      (turn.before.opening turn.command).toList.length + (Trace.attempts rest).length := by
    rw [attempts, h.happened_eq, Trace.attempts_append, Trace.attempts_append, h.attempts_prelude,
      h.heeds.attempts]
    simp
  have hcalls : Trace.calls turn.happened = Trace.calls first ++ Trace.calls rest := by
    rw [h.happened_eq, Trace.calls_append, Trace.calls_append, h.calls_prelude]
    rfl
  have hrest := h.consults.attempts_le
  refine ⟨fun hframe => ?_, fun _ _ _ _ _ => h.told, h.attempts_eq, h.pending_eq,
    fun hframe => ⟨?_, ?_⟩, fun hevent => ⟨?_, ?_⟩⟩
  · obtain ⟨rfl, ⟨clock, rfl⟩, dt, rfl⟩ := h.frame hframe
    have hheeds := h.heeds
    rw [turn.before.opening_of_isFrame hframe] at hheeds
    exact ⟨clock, dt, first, rest, rendered, h.happened_eq, hheeds, h.consults⟩
  · rw [hattempts]
    exact Nat.add_le_add Option.length_toList_le hrest
  · rw [hcalls, List.length_append]
    exact Nat.add_le_add h.heeds.calls_le h.consults.calls_le
  · rw [hattempts, turn.before.opening_of_isEvent hevent]
    simpa using hrest
  · have hfirst := h.heeds
    rw [turn.before.opening_of_isEvent hevent] at hfirst
    cases hfirst
    rw [hcalls]
    exact h.consults.calls_le

end Proceeds

/-- **Every turn deals with what is asked for.** -/
theorem serves (turn : Turn n κ α γ) : turn.Serves := by
  obtain ⟨_, _, _, _, _, _, h⟩ := turn.exists_proceeds
  exact h.serves

/-- The names in line are those put aside and the one that waits. -/
theorem replaced_append (turn : Turn n κ α γ) :
    turn.replaced ++ turn.after.engine.pending.toList = turn.kept.toList ++ turn.requests true := by
  have hpending : turn.after.engine.pending =
      (turn.kept.toList ++ turn.requests true).getLast? := by
    rw [turn.serves.pending_eq, List.getLast?_append]
    cases turn.kept <;> rfl
  rw [replaced, hpending]
  cases hlast : (turn.kept.toList ++ turn.requests true).getLast? with
  | none => rw [List.getLast?_eq_none_iff.1 hlast]; rfl
  | some name =>
    obtain ⟨others, hline⟩ := List.getLast?_eq_some_iff.1 hlast
    rw [hline, List.dropLast_concat]
    rfl

/-- **The accounts of a turn balance**: every name that waited or was asked for
is tried, put aside, or waits. -/
theorem perm_requests (turn : Turn n κ α γ) :
    (turn.attempts ++ (turn.replaced ++ turn.after.engine.pending.toList)).Perm
      (turn.before.engine.pending.toList ++
        (turn.hosted.toList ++ turn.requests false ++ turn.requests true)) := by
  have hopening : ((turn.before.opening turn.command).toList ++ turn.kept.toList).Perm
      (turn.before.engine.pending.toList ++ turn.hosted.toList) := by
    cases hframe : turn.command.IsFrame with
    | true =>
      rw [turn.before.opening_of_isFrame hframe, kept, hosted, hframe]
      exact .refl _
    | false =>
      rw [kept, hosted, hframe]
      exact List.perm_append_comm
  rw [turn.replaced_append, turn.serves.attempts_eq, List.perm_iff_count]
  intro name
  have hcount := hopening.count_eq name
  simp only [List.count_append] at hcount ⊢
  omega

end Turn

/-! ## Runs -/

variable [AssetService α]

/-- Turns one after the other. Between them anything may be done to the engine
and around it, but for the name that waits: nobody else can reach it. -/
inductive Course : Option String → List (Turn n κ α γ) → Option String → Prop where
  | rest (waiting : Option String) : Course waiting [] waiting
  | turn {left : Option String} {turns : List (Turn n κ α γ)} (turn : Turn n κ α γ) :
      Course turn.after.engine.pending turns left →
      Course turn.before.engine.pending (turn :: turns) left

/-- The turns of a run. -/
def Session.turns (cast : κ → Controller κ α γ) :
    Session n κ α γ → List (Command κ) → List (Turn n κ α γ)
  | _, [] => []
  | s, command :: rest => ⟨cast, s, command⟩ :: (s.perform cast command).turns cast rest

/-- **Every run is such a course.** -/
theorem course_run (cast : κ → Controller κ α γ) (s : Session n κ α γ)
    (commands : List (Command κ)) :
    Course s.engine.pending (s.turns cast commands) (s.run cast commands).engine.pending := by
  induction commands generalizing s with
  | nil => exact .rest _
  | cons command rest ih => exact .turn ⟨cast, s, command⟩ (ih _)

namespace Course

variable {waiting left : Option String} {early turns late : List (Turn n κ α γ)}

theorem of_append (h : Course waiting (early ++ late) left) :
    ∃ between, Course waiting early between ∧ Course between late left := by
  induction early generalizing waiting with
  | nil => exact ⟨waiting, .rest waiting, h⟩
  | cons turn early ih =>
    cases h with
    | turn _ hrest =>
      obtain ⟨between, hearly, hlate⟩ := ih hrest
      exact ⟨between, .turn turn hearly, hlate⟩

/-- What waits without a frame. -/
theorem left_eq (h : Course waiting turns left)
    (hframe : ∀ turn ∈ turns, turn.command.IsFrame = false) :
    left = (turns.flatMap (·.requests true)).getLast?.or waiting := by
  induction h with
  | rest => rfl
  | @turn left turns turn _ ih =>
    obtain ⟨hturn, hturns⟩ := List.forall_mem_cons.1 hframe
    rw [ih hturns, turn.serves.pending_eq, Turn.kept, if_neg (by simp [hturn]),
      List.flatMap_cons, List.getLast?_append, Option.or_assoc]

/-- The accounts of a course balance. -/
theorem perm_requests (h : Course waiting turns left) :
    (turns.flatMap (·.attempts) ++ (turns.flatMap (·.replaced) ++ left.toList)).Perm
      (waiting.toList ++ turns.flatMap fun turn =>
        turn.hosted.toList ++ turn.requests false ++ turn.requests true) := by
  induction h with
  | rest waiting => exact .of_eq (List.append_nil _).symm
  | @turn left turns turn _ ih =>
    -- what waits after the turn is in its accounts and in those of the rest
    rw [List.perm_iff_count] at ih ⊢
    intro name
    have hturn := turn.perm_requests.count_eq name
    have hturns := ih name
    simp only [List.flatMap_cons, List.count_append] at hturn hturns ⊢
    omega

/-- **A name that has to wait is what the next frame begins with**, unless a
later one has taken its place. -/
theorem next_frame {turn next : Turn n κ α γ} {before after : Trace n κ α γ}
    {e : Happening n κ α γ} {name : String}
    (h : Course waiting (turn :: (turns ++ next :: late)) left)
    (hframe : ∀ turn ∈ turns, turn.command.IsFrame = false) (hnext : next.command.IsFrame = true)
    (hhappened : turn.happened = before ++ e :: after)
    (hrequest : e.request? turn.cast true = some name) :
    ∃ rest, next.happened = .asked ((Trace.requests turn.cast true after ++
      turns.flatMap (·.requests true)).getLast?.getD name) :: rest := by
  cases h with
  | turn _ hrest =>
    obtain ⟨between, hbetween, hlate⟩ := hrest.of_append
    have hasked : turn.requests true =
        Trace.requests turn.cast true before ++ name :: Trace.requests turn.cast true after := by
      rw [Turn.requests, hhappened, Trace.requests_append, Trace.requests, Trace.requests,
        List.filterMap_cons, hrequest]
      rfl
    have hwaiting : between = some
        ((Trace.requests turn.cast true after ++
          turns.flatMap (·.requests true)).getLast?.getD name) := by
      rw [hbetween.left_eq hframe, turn.serves.pending_eq, hasked, List.getLast?_append,
        List.getLast?_append, List.getLast?_cons]
      cases (turns.flatMap (·.requests true)).getLast? <;>
        cases (Trace.requests turn.cast true after).getLast? <;> rfl
    cases hlate with
    | turn _ _ =>
      obtain ⟨_, _, _, rest, _, hnexthappened, hheeds, -⟩ := next.serves.frame hnext
      rw [hwaiting] at hheeds
      cases hheeds
      exact ⟨_, hnexthappened⟩

end Course

/-- **How the requests of a course of turns fare.** -/
structure Settled (waiting : Option String) (turns : List (Turn n κ α γ)) (left : Option String) :
    Prop where
  /-- What is asked for on a frame or an action is rendered in the same turn, which
  tries nothing else but the name it begins with. -/
  serves : ∀ turn ∈ turns, turn.Serves
  /-- What is asked for on an entry or an exit is what the next frame begins with,
  or else the last name that took its place. -/
  next_frame : ∀ early turn between next late before e after name,
    turns = early ++ turn :: (between ++ next :: late) →
      (∀ turn ∈ between, turn.command.IsFrame = false) → next.command.IsFrame = true →
        turn.happened = before ++ e :: after → e.request? turn.cast true = some name →
          ∃ rest, next.happened = .asked ((Trace.requests turn.cast true after ++
            between.flatMap (·.requests true)).getLast?.getD name) :: rest
  /-- What was tried, was put aside or is left is what waited at first, what the
  host asked for, and what hooks asked for, each as often. -/
  balance : (turns.flatMap (·.attempts) ++ (turns.flatMap (·.replaced) ++ left.toList)).Perm
    (waiting.toList ++ turns.flatMap fun turn =>
      turn.hosted.toList ++ turn.requests false ++ turn.requests true)

/-- **Every request is served once or replaced.** Whatever the hooks do and the
host does in between, a request is tried once and at its time, unless a later one
takes its place; and of the requests of one hook the last stands. -/
theorem requests_served {waiting left : Option String} {turns : List (Turn n κ α γ)}
    (h : Course waiting turns left) :
    Settled waiting turns left ∧ ∀ (cue last : Cue κ α γ) (names : List String),
      cue.Asks names last → last.requested = names.getLast?.or cue.requested := by
  refine ⟨⟨fun turn _ => turn.serves, ?_, h.perm_requests⟩, fun _ _ _ => Cue.Asks.requested⟩
  rintro early turn between next late before e after name rfl hframe hnext hhappened hrequest
  obtain ⟨_, -, hlate⟩ := h.of_append
  exact hlate.next_frame hframe hnext hhappened hrequest

/-- A controller that asks for a scene whenever it is told of something. -/
def restless : Controller Unit α γ where
  enter cue := (cue.request "dawn").request "dusk"
  exit cue := cue.request "noon"
  update _ cue := cue.request "midnight"
  action _ cue := cue.request "noon"

/-- An engine with two scenes in the hands of that controller. -/
def carousel : Session 1 Unit SkinAssets Unit :=
  (Session.solo {} (MemorySource.load [("index.xml",
    "<stage><scene name='dawn' controller='c'/><scene name='dusk' controller='c'/></stage>")])
      {} ()).setScope { controllers := [("c", ())] }

/-- Two frames after the start: each renders what waits, and tries in vain what is
asked for. -/
theorem requests_served_carousel :
    let turns := carousel.turns (fun _ => restless) [.loadStage, .update 0, .update 0]
    turns.map Turn.attempts = [["dawn"], ["dusk", "midnight"], ["dusk", "midnight"]] ∧
      turns.map Turn.replaced = [[], ["noon"], ["noon"]] ∧
      Course none turns (some "dusk") ∧ Settled none turns (some "dusk") := by
  intro turns
  have hcourse : Course none turns (some "dusk") := by
    have hleft : (carousel.run (fun _ => restless)
        [.loadStage, .update 0, .update 0]).engine.pending = some "dusk" := by decide +kernel
    exact hleft ▸ course_run (fun _ => restless) carousel [.loadStage, .update 0, .update 0]
  exact ⟨by decide +kernel, by decide +kernel, hcourse, (requests_served hcourse).1⟩

end SceneScript
