import SceneScript.Actor.Base
/-!
# Actors — bindings as a map

An actor answers an event with the action that was bound last to an event like it, up to
the case of ASCII letters (`Base.answers_last`).

A binding takes the place of the first entry for an event like its own. A look-up stops
at the first entry as well, so that it sees the new action there and the old one
everywhere else (`Base.binding?_bind`). An entry keeps the event it was made with, and one
is added only where none is like it, so no two are ever alike (`Base.Apart.bind`).
-/

namespace SceneScript

/-- Searched from its end, a list yields the last entry that is looked for. -/
theorem find?_reverse_eq_some_iff {α : Type} {p : α → Bool} {entries : List α} {entry : α} :
    entries.reverse.find? p = some entry ↔ p entry = true ∧
      ∃ earlier later, entries = earlier ++ entry :: later ∧ ∀ other ∈ later, p other = false := by
  rw [List.find?_eq_some_iff_append]
  refine and_congr_right fun _ => ?_
  constructor
  · rintro ⟨later, earlier, hsplit, hlater⟩
    refine ⟨earlier.reverse, later.reverse, ?_, fun other hother => ?_⟩
    · rw [← List.reverse_reverse entries, hsplit]
      simp
    · simpa using hlater other (List.mem_reverse.1 hother)
  · rintro ⟨earlier, later, rfl, hlater⟩
    refine ⟨later.reverse, earlier.reverse, by simp, fun other hother => ?_⟩
    simpa using hlater other (List.mem_reverse.1 hother)

namespace Base

/-- The actor after events were bound to actions in order. -/
def bindAll (base : Base) (calls : List (String × String)) : Base :=
  calls.foldl (fun base call => base.bind call.1 call.2) base

/-- No two events that are bound are alike. -/
def Apart (base : Base) : Prop :=
  base.bindings.Pairwise fun a b => Text.alike a.1 b.1 = false

/-! ## One binding -/

/-- **An event answers to the action bound last**, and every event that is not like it to
what it did before. -/
theorem binding?_bind (base : Base) (event action other : String) :
    (base.bind event action).binding? other =
      if Text.alike event other then some action else base.binding? other := by
  rw [binding?, binding?, bind]
  induction base.bindings with
  | nil => by_cases h : Text.alike event other <;> simp [rebind, h]
  | cons entry rest ih =>
    obtain ⟨key, old⟩ := entry
    rw [rebind]
    by_cases hkey : Text.alike key event
    · have hsame : Text.alike key other = Text.alike event other := Text.alike_congr hkey other
      rw [if_pos hkey, List.find?_cons, List.find?_cons, hsame]
      by_cases h : Text.alike event other <;> simp [h]
    · rw [if_neg hkey, List.find?_cons, List.find?_cons]
      by_cases hother : Text.alike key other
      · -- the event is not like what the entry is like
        have hnot : ¬ Text.alike event other := by
          intro h
          exact hkey (Text.alike_trans hother (Text.alike_comm event other ▸ h))
        simp [hother, hnot]
      · rw [Bool.not_eq_true] at hother
        rw [hother]
        exact ih

/-- The events that are bound stay, and one that none of them is like comes last. -/
theorem events_rebind (event action : String) (entries : List (String × String)) :
    (rebind event action entries).map (·.1) =
      if entries.any fun entry => Text.alike entry.1 event then entries.map (·.1)
      else entries.map (·.1) ++ [event] := by
  induction entries with
  | nil => rfl
  | cons entry rest ih =>
    obtain ⟨key, old⟩ := entry
    rw [rebind]
    by_cases hkey : Text.alike key event
    · simp [hkey]
    · rw [if_neg hkey, List.map_cons, ih]
      rw [Bool.not_eq_true] at hkey
      by_cases hrest : rest.any fun entry => Text.alike entry.1 event <;> simp [hkey, hrest]

/-- **A binding makes no second entry for an event.** -/
theorem Apart.bind {base : Base} (h : base.Apart) (event action : String) :
    (base.bind event action).Apart := by
  have hevents : (base.bindings.map (·.1)).Pairwise fun a b => Text.alike a b = false :=
    List.pairwise_map.2 h
  have hafter : ((rebind event action base.bindings).map (·.1)).Pairwise
      fun a b => Text.alike a b = false := by
    rw [events_rebind]
    split
    next => exact hevents
    next hnone =>
      rw [List.pairwise_append]
      refine ⟨hevents, List.pairwise_singleton _ _, fun key hkey last hlast => ?_⟩
      obtain ⟨entry, hentry, rfl⟩ := List.mem_map.1 hkey
      rw [List.mem_singleton.1 hlast, ← Bool.not_eq_true]
      intro hlike
      exact hnone (List.any_eq_true.2 ⟨entry, hentry, hlike⟩)
  exact List.pairwise_map.1 hafter

/-! ## Bindings in order -/

theorem Apart.bindAll {base : Base} (h : base.Apart) (calls : List (String × String)) :
    (base.bindAll calls).Apart := by
  induction calls generalizing base with
  | nil => exact h
  | cons call rest ih => exact ih (h.bind call.1 call.2)

/-- After a row of bindings an event answers to the last of those for an event like it, and
to what it did before where there is none. -/
theorem binding?_bindAll (base : Base) (calls : List (String × String)) (event : String) :
    (base.bindAll calls).binding? event =
      ((calls.reverse.find? fun call => Text.alike call.1 event).map (·.2)).or
        (base.binding? event) := by
  induction calls generalizing base with
  | nil => rfl
  | cons call rest ih =>
    have hrest := ih (base.bind call.1 call.2)
    rw [binding?_bind] at hrest
    rw [bindAll, List.foldl_cons, ← bindAll, hrest, List.reverse_cons, List.find?_append,
      Option.map_or, Option.or_assoc, List.find?_singleton]
    congr 1
    by_cases h : Text.alike call.1 event <;> simp [h]

/-- **Bindings are a map up to the case of ASCII letters.** Whatever was bound on a new
actor, an event answers to nothing exactly where no event like it was bound, and else to
the action of the last binding for an event like it; and of the events that are kept no
two are alike. -/
theorem answers_last (calls : List (String × String)) :
    let base := ({} : Base).bindAll calls
    (∀ event, base.binding? event = none ↔
      ∀ call ∈ calls, Text.alike call.1 event = false) ∧
    (∀ event action, base.binding? event = some action ↔
      ∃ key, Text.alike key event = true ∧
        ∃ earlier later, calls = earlier ++ (key, action) :: later ∧
          ∀ call ∈ later, Text.alike call.1 event = false) ∧
    base.bindings.Pairwise fun a b => Text.alike a.1 b.1 = false := by
  intro base
  have hnew : ({} : Base).Apart := List.Pairwise.nil
  have hanswer : ∀ event, base.binding? event =
      (calls.reverse.find? fun call => Text.alike call.1 event).map (·.2) := by
    intro event
    rw [binding?_bindAll]
    exact Option.or_none
  refine ⟨fun event => ?_, fun event action => ?_, hnew.bindAll calls⟩
  · rw [hanswer, Option.map_eq_none_iff, List.find?_eq_none]
    simp only [List.mem_reverse, Bool.not_eq_true]
  · rw [hanswer, Option.map_eq_some_iff]
    constructor
    · rintro ⟨⟨key, last⟩, hfound, rfl⟩
      exact ⟨key, find?_reverse_eq_some_iff.1 hfound⟩
    · rintro ⟨key, hfound⟩
      exact ⟨(key, action), find?_reverse_eq_some_iff.2 hfound, rfl⟩

/-- Rebinding replaces, in any case. -/
example : ((({} : Base).bind "click" "start").bind "Click" "restart").binding? "CLICK" =
    some "restart" := by
  decide +kernel

end Base
end SceneScript
