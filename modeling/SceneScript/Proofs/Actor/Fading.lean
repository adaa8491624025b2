import SceneScript.Actor.Base
/-!
# Actors — the discipline of fades

A queue of fades is run by a loop: while something is left of the step, or the first
fade takes no time, a turn moves the first fade on, and ends the loop unless the fade is
over (`Fade.Loop`). Each turn but the last takes a fade off the queue, so whatever the
numbers are the loop ends, with what the queue comes to when it is run fade by fade
(`Fade.Loop.Runs.spec`, `Fade.Loop.exists_runs`).

Of the fades that are left only the first was touched, and it takes time
(`Fade.Remains`, `Fade.not_due_run`). So in an actor the others wait as they were queued
(`Base.fades_disciplined`). Of numbers all this uses only that one is at least one.
-/

namespace SceneScript

namespace Fade

/-! ## The loop -/

/-- Where the loop over a queue stands: the opacity, what is left of the step, and the
fades that are queued. -/
structure Loop where
  alpha : Float32
  remaining : Float32
  fades : List Fade

namespace Loop

/-- Whether there is another turn: there is something left of the step, or the first fade
takes no time. -/
def GoesOn (loop : Loop) : Prop :=
  0 < loop.remaining ∨ ∃ fade, loop.fades.head? = some fade ∧ fade.duration ≤ 0

/-- A turn: where the loop stands after it, and whether the loop may go on. It does when a
fade is over. -/
def turn : Loop → ForInStep Loop
  | ⟨alpha, remaining, []⟩ => .done ⟨alpha, remaining, []⟩
  | ⟨alpha, remaining, fade :: rest⟩ =>
    let moved := fade.advance alpha remaining
    let reached := moved.alpha (fade.start.getD alpha)
    if 1 ≤ moved.progress then .yield ⟨reached, remaining - fade.share remaining, rest⟩
    else .done ⟨reached, remaining - fade.share remaining, moved :: rest⟩

/-- The loop ends after a number of turns. -/
inductive Runs : Nat → Loop → Loop → Prop
  | stops {loop : Loop} : ¬loop.GoesOn → Runs 0 loop loop
  | breaks {loop last : Loop} : loop.GoesOn → loop.turn = .done last → Runs 1 loop last
  | turns {loop next last : Loop} {n : Nat} :
      loop.GoesOn → loop.turn = .yield next → Runs n next last → Runs (n + 1) loop last

/-- With a fade in the queue, whether there is another turn is up to the step and the
fade. -/
theorem goesOn_cons_iff {alpha remaining : Float32} {fade : Fade} {rest : List Fade} :
    (⟨alpha, remaining, fade :: rest⟩ : Loop).GoesOn ↔ 0 < remaining ∨ fade.duration ≤ 0 := by
  simp [GoesOn]

/-- A turn that goes on has taken a fade off the queue, and the queue is run from there. -/
theorem run_of_yield {loop next : Loop} (hgoes : loop.GoesOn) (hturn : loop.turn = .yield next) :
    loop.fades.length = next.fades.length + 1 ∧
      run loop.alpha loop.remaining loop.fades = run next.alpha next.remaining next.fades := by
  obtain ⟨alpha, remaining, fades⟩ := loop
  cases fades with
  | nil => cases hturn
  | cons fade rest =>
    rw [goesOn_cons_iff] at hgoes
    simp only [turn] at hturn
    split at hturn
    next hover =>
      cases hturn
      exact ⟨rfl, by rw [run, if_pos hgoes, if_pos hover]⟩
    next => cases hturn

/-- A turn that ends the loop leaves what the run of the queue does. -/
theorem run_of_done {loop last : Loop} (hgoes : loop.GoesOn) (hturn : loop.turn = .done last) :
    run loop.alpha loop.remaining loop.fades = (last.alpha, last.fades) := by
  obtain ⟨alpha, remaining, fades⟩ := loop
  cases fades with
  | nil =>
    cases hturn
    rfl
  | cons fade rest =>
    rw [goesOn_cons_iff] at hgoes
    simp only [turn] at hturn
    split at hturn
    next => cases hturn
    next hover =>
      cases hturn
      rw [run, if_pos hgoes, if_neg hover]

theorem run_of_not_goesOn {loop : Loop} (h : ¬loop.GoesOn) :
    run loop.alpha loop.remaining loop.fades = (loop.alpha, loop.fades) := by
  obtain ⟨alpha, remaining, fades⟩ := loop
  cases fades with
  | nil => rfl
  | cons fade rest =>
    rw [goesOn_cons_iff] at h
    rw [run, if_neg h]

/-- **The loop takes one turn for each fade and one more at most**, and leaves what the run
of the queue does. -/
theorem Runs.spec {n : Nat} {loop last : Loop} (h : Runs n loop last) :
    n ≤ loop.fades.length + 1 ∧
      run loop.alpha loop.remaining loop.fades = (last.alpha, last.fades) := by
  induction h with
  | stops hstop => exact ⟨Nat.zero_le _, run_of_not_goesOn hstop⟩
  | breaks hgoes hturn => exact ⟨by omega, run_of_done hgoes hturn⟩
  | turns hgoes hturn _ ih =>
    obtain ⟨hbound, hrun⟩ := ih
    obtain ⟨hlength, hnext⟩ := run_of_yield hgoes hturn
    exact ⟨by omega, hnext.trans hrun⟩

/-- **The loop ends**, whatever the numbers are. -/
theorem exists_runs (loop : Loop) : ∃ n last, Runs n loop last := by
  -- each turn that goes on leaves a shorter queue
  induction hlength : loop.fades.length using Nat.strongRecOn generalizing loop with
  | ind length ih =>
    by_cases hgoes : loop.GoesOn
    · cases hturn : loop.turn with
      | done last => exact ⟨1, last, .breaks hgoes hturn⟩
      | yield next =>
        have hshorter := (run_of_yield hgoes hturn).1
        obtain ⟨n, last, hruns⟩ := ih next.fades.length (by omega) next rfl
        exact ⟨n + 1, last, .turns hgoes hturn hruns⟩
    · exact ⟨0, loop, .stops hgoes⟩

end Loop

/-! ## What a run leaves of a queue -/

/-- What a fade was queued for. -/
def plan (fade : Fade) : Float32 × Float32 :=
  (fade.target, fade.duration)

/-- **What remains of a queue**: some of the first fades are gone, the others are the same
fades in the same order, and only the first of them may have moved on. -/
def Remains (before after : List Fade) : Prop :=
  ∃ gone kept, before = gone ++ kept ∧ after.map plan = kept.map plan ∧ after.tail = kept.tail

theorem Remains.refl (fades : List Fade) : Remains fades fades :=
  ⟨[], fades, rfl, rfl, rfl⟩

theorem Remains.cons {before after : List Fade} (h : Remains before after) (fade : Fade) :
    Remains (fade :: before) after := by
  obtain ⟨gone, kept, rfl, hplan, htail⟩ := h
  exact ⟨fade :: gone, kept, rfl, hplan, htail⟩

/-- Behind the first fade nothing remains that was not behind the first before. -/
theorem Remains.tail_subset {before after : List Fade} (h : Remains before after) :
    after.tail ⊆ before.tail := by
  obtain ⟨gone, kept, rfl, -, htail⟩ := h
  rw [htail]
  cases gone with
  | nil => exact List.Subset.refl _
  | cons first gone =>
    exact List.Subset.trans (List.tail_suffix kept).subset (List.subset_append_right gone kept)

/-- **A run takes fades off the front** and moves on at most the one that it stops at. -/
theorem remains_run (alpha remaining : Float32) (fades : List Fade) :
    Remains fades (run alpha remaining fades).2 := by
  induction fades generalizing alpha remaining with
  | nil => exact .refl []
  | cons fade rest ih =>
    rw [run]
    split
    next =>
      dsimp only
      split
      next => exact (ih _ _).cons fade
      next => exact ⟨[], fade :: rest, rfl, rfl, rfl⟩
    next => exact .refl _

/-- A fade that takes no time is over when it is moved on. -/
theorem progress_of_due {fade : Fade} (h : fade.duration ≤ 0) : 1 ≤ fade.progress := by
  rw [progress, if_pos h]
  decide

/-- **A run stops at no fade that takes no time.** -/
theorem not_due_run (alpha remaining : Float32) (fades : List Fade) {first : Fade}
    (hfirst : (run alpha remaining fades).2.head? = some first) : ¬first.duration ≤ 0 := by
  induction fades generalizing alpha remaining with
  | nil => cases hfirst
  | cons fade rest ih =>
    rw [run] at hfirst
    split at hfirst
    next =>
      dsimp only at hfirst
      split at hfirst
      next => exact ih _ _ hfirst
      next hover =>
        cases hfirst
        exact fun hdue => hover (progress_of_due hdue)
    next hgoes =>
      cases hfirst
      exact fun hdue => hgoes (.inr hdue)

end Fade

/-! ## Actors -/

/-- What is done with the fades of an actor. -/
inductive Fading where
  /-- A fade is queued. -/
  | fadeTo (target duration : Float32)
  /-- The fades run for a step. -/
  | act (dt : Float32)

namespace Base

/-- The actor after one more thing was done with its fades. -/
def fadeStep (base : Base) : Fading → Base
  | .fadeTo target duration => base.fadeTo target duration
  | .act dt => base.act dt

/-- The actor after things were done with its fades in order. -/
def fadeAll (base : Base) (steps : List Fading) : Base :=
  steps.foldl fadeStep base

/-- The fades behind the first are as they were queued. -/
def Waits (base : Base) : Prop :=
  ∀ fade ∈ base.fades.tail, fade.start = none ∧ fade.elapsed = 0

/-- A fade is queued as one that waits. -/
theorem Waits.fadeTo {base : Base} (h : base.Waits) (target duration : Float32) :
    (base.fadeTo target duration).Waits := by
  intro fade hfade
  have hqueue : (base.fadeTo target duration).fades =
      base.fades ++ [Fade.toward target duration] := rfl
  rw [hqueue] at hfade
  cases hfades : base.fades with
  | nil =>
    rw [hfades] at hfade
    cases hfade
  | cons first rest =>
    rw [hfades, List.cons_append, List.tail_cons] at hfade
    rcases List.mem_append.1 hfade with hold | hnew
    · exact h fade (by rwa [hfades])
    · rw [List.mem_singleton.1 hnew]
      exact ⟨rfl, rfl⟩

theorem Waits.act {base : Base} (h : base.Waits) (dt : Float32) : (base.act dt).Waits := by
  intro fade hfade
  have hremains : Fade.Remains base.fades (base.act dt).fades := Fade.remains_run _ _ _
  exact h fade (hremains.tail_subset hfade)

theorem Waits.fadeAll {base : Base} (h : base.Waits) (steps : List Fading) :
    (base.fadeAll steps).Waits := by
  induction steps generalizing base with
  | nil => exact h
  | cons step steps ih =>
    cases step with
    | fadeTo target duration => exact ih (h.fadeTo target duration)
    | act dt => exact ih (h.act dt)

/-- **The discipline of fades.** Whatever was queued and run on a new actor, with whatever
numbers, the fades behind the first have not started. A step from there is a loop that
ends, after at most one turn for each fade and one more; it leaves the end of the queue,
in which at most the first fade has moved on, and one that takes time; and of the actor
it changes the opacity and the queue alone. -/
theorem fades_disciplined (steps : List Fading) :
    let base := ({} : Base).fadeAll steps
    (∀ fade ∈ base.fades.tail, fade.start = none ∧ fade.elapsed = 0) ∧
      ∀ dt,
        (∃ n last, Fade.Loop.Runs n ⟨base.color.alpha, dt, base.fades⟩ last) ∧
        (∀ n last, Fade.Loop.Runs n ⟨base.color.alpha, dt, base.fades⟩ last →
          n ≤ base.fades.length + 1 ∧
            (base.act dt).color.alpha = last.alpha ∧ (base.act dt).fades = last.fades) ∧
        Fade.Remains base.fades (base.act dt).fades ∧
        (∀ first, (base.act dt).fades.head? = some first → ¬first.duration ≤ 0) ∧
        base.act dt = { base with
          color := { base.color with alpha := (base.act dt).color.alpha }
          fades := (base.act dt).fades } := by
  intro base
  have hnew : ({} : Base).Waits := nofun
  refine ⟨hnew.fadeAll steps, fun dt => ⟨Fade.Loop.exists_runs _, fun n last hruns => ?_,
    Fade.remains_run _ _ _, fun first hfirst => Fade.not_due_run _ _ _ hfirst, rfl⟩⟩
  obtain ⟨hbound, hrun⟩ := hruns.spec
  exact ⟨hbound, congrArg Prod.fst hrun, congrArg Prod.snd hrun⟩

/-- Two fades share a step that is longer than the first. -/
example : ((({} : Base).fadeTo 0 1).fadeTo 1 1 |>.act 1.5).fades.map Fade.elapsed = [0.5] := by
  decide +kernel

end Base

end SceneScript
