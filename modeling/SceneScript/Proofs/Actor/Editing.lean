import Mathlib.Data.List.Basic
import SceneScript.Proofs.Actor.Painted
/-!
# Actors — looking up by name and editing by path

A name is looked up in painting order, which is the order of the paths
(`pairwise_paintedFrom`): an actor is found and a path is found by stopping at the
same entry of what is painted (`find?_eq_find?`, `pathFrom?_eq_find?`).

An edit goes down a path and comes back with another forest. It gets there
exactly where there is an actor (`editAt?_eq`). What an edit of an actor's own
things leaves is told path by path (`Edited`): at its path the actor edited,
around it the same actors with as many children, and everywhere else, inside the
actor too, what was there before.
-/

namespace SceneScript

namespace Actor

/-! ## The order of paths -/

/-- The path of what is painted begins in the list. -/
theorem exists_cons_of_mem_paintedFrom {i : Nat} {actors : List Actor}
    {entry : List Nat × Actor} (h : entry ∈ paintedFrom i actors) :
    ∃ k rest, entry.1 = (i + k) :: rest := by
  obtain ⟨k, rest, hpath, -⟩ := (mem_paintedFrom_iff i actors entry.1 entry.2).1 h
  exact ⟨k, rest, hpath⟩

/-- **Actors are painted in the order of their paths**, an actor before what is
inside it. -/
theorem pairwise_paintedFrom : ∀ (i : Nat) (actors : List Actor),
    (paintedFrom i actors).Pairwise fun a b => List.Lex (· < ·) a.1 b.1
  | _, [] => by
    rw [paintedFrom]
    exact .nil
  | i, ⟨_, _, children⟩ :: rest => by
    rw [paintedFrom, List.pairwise_append, List.pairwise_cons, List.pairwise_map]
    refine ⟨⟨?_, (pairwise_paintedFrom 0 children).imp .cons⟩,
      pairwise_paintedFrom (i + 1) rest, ?_⟩
    · intro entry hentry
      obtain ⟨inner, hinner, rfl⟩ := List.mem_map.1 hentry
      obtain ⟨k, path, hpath⟩ := exists_cons_of_mem_paintedFrom hinner
      rw [hpath]
      exact .cons .nil
    · -- everything of the first actor comes before everything of a later one
      intro earlier hearlier later hlater
      obtain ⟨k, path, hpath⟩ := exists_cons_of_mem_paintedFrom hlater
      have hstart : ∃ path, earlier.1 = i :: path := by
        rcases List.mem_cons.1 hearlier with rfl | hinside
        · exact ⟨[], rfl⟩
        · obtain ⟨inner, -, rfl⟩ := List.mem_map.1 hinside
          exact ⟨inner.1, rfl⟩
      obtain ⟨path', hpath'⟩ := hstart
      rw [hpath, hpath']
      exact .rel (by omega)

/-! ## Looking up by name -/

/-- Whether an actor that is painted bears a name. -/
def bears (name : String) (entry : List Nat × Actor) : Bool :=
  entry.2.name = some name

/-- A path is looked for as far as the first actor painted under the name. -/
theorem pathFrom?_eq_find? (name : String) : ∀ (i : Nat) (actors : List Actor),
    pathFrom? name i actors = ((paintedFrom i actors).find? (bears name)).map (·.1)
  | _, [] => by rw [pathFrom?, paintedFrom, List.find?_nil, Option.map_none]
  | i, ⟨base, kind, children⟩ :: rest => by
    rw [paintedFrom, List.cons_append, List.find?_cons, pathFrom?]
    by_cases hname : base.name = some name
    · simp [bears, Actor.name, hname]
    · have hself : bears name ([i], ⟨base, kind, children⟩) = false := decide_eq_false hname
      rw [if_neg hname, hself, List.find?_append, List.find?_map,
        pathFrom?_eq_find? name 0 children, pathFrom?_eq_find? name (i + 1) rest, Option.map_or,
        Option.map_map, Option.map_map]
      rfl

/-- And so is an actor. -/
theorem find?_eq_find? (name : String) : ∀ (i : Nat) (actors : List Actor),
    find? name actors = ((paintedFrom i actors).find? (bears name)).map (·.2)
  | _, [] => by rw [find?, paintedFrom, List.find?_nil, Option.map_none]
  | i, ⟨base, kind, children⟩ :: rest => by
    rw [paintedFrom, List.cons_append, List.find?_cons, find?]
    by_cases hname : base.name = some name
    · simp [bears, Actor.name, hname]
    · have hself : bears name ([i], ⟨base, kind, children⟩) = false := decide_eq_false hname
      rw [if_neg hname, hself, List.find?_append, List.find?_map,
        find?_eq_find? name 0 children, find?_eq_find? name (i + 1) rest, Option.map_or,
        Option.map_map]
      rfl

/-- What is painted first under a name stands at its path, bears the name, and has
the least path of all that do. -/
theorem first_of_find? {actors : List Actor} {name : String} {path : List Nat} {actor : Actor}
    (h : (paintedFrom 0 actors).find? (bears name) = some (path, actor)) :
    atPath? actors path = some actor ∧ actor.name = some name ∧
      ∀ q other, atPath? actors q = some other → other.name = some name →
        q = path ∨ List.Lex (· < ·) path q := by
  obtain ⟨hbears, earlier, later, hpainted, hearlier⟩ := List.find?_eq_some_iff_append.1 h
  have horder := pairwise_paintedFrom 0 actors
  rw [hpainted, List.pairwise_append, List.pairwise_cons] at horder
  refine ⟨?_, of_decide_eq_true hbears, fun q other hother hname => ?_⟩
  · rw [← mem_paintedFrom_zero_iff, hpainted]
    exact List.mem_append_right _ List.mem_cons_self
  · rw [← mem_paintedFrom_zero_iff, hpainted, List.mem_append, List.mem_cons] at hother
    rcases hother with hbefore | hthere | hafter
    · have hnot := hearlier _ hbefore
      simp [bears, hname] at hnot
    · cases hthere
      exact .inl rfl
    · exact .inr (horder.2.1.1 _ hafter)

/-! ## Reading after an edit -/

section Edit

variable {edit : Actor → Actor} {actors : List Actor}

/-- At the path of an edit stands the actor edited. -/
theorem atPath?_editAt_self (edit : Actor → Actor) (actors : List Actor) (path : List Nat) :
    atPath? (editAt edit actors path) path = (atPath? actors path).map edit := by
  induction path generalizing actors with
  | nil => rfl
  | cons i path ih =>
    rw [editAt, atPath?, atPath?, List.getElem?_modify_eq]
    cases actors[i]? with
    | none => rfl
    | some actor =>
      by_cases hpath : path = []
      · simp [hpath]
      · simp [hpath, ih]

/-- Around an edit stand the same actors, with the edit inside. -/
theorem atPath?_editAt_append (edit : Actor → Actor) (actors : List Actor) (path : List Nat)
    {rest : List Nat} (hrest : rest ≠ []) :
    atPath? (editAt edit actors (path ++ rest)) path =
      (atPath? actors path).map fun outer =>
        { outer with children := editAt edit outer.children rest } := by
  induction path generalizing actors with
  | nil => rfl
  | cons i path ih =>
    rw [List.cons_append, editAt, atPath?, atPath?, List.getElem?_modify_eq]
    cases actors[i]? with
    | none => rfl
    | some actor =>
      by_cases hpath : path = []
      · simp [hpath, hrest]
      · simp [hpath, ih]

/-- Elsewhere an edit of an actor's own things changes nothing, nor inside that
actor. -/
theorem atPath?_editAt_of_not_prefix {path q : List Nat} (h : ¬ q <+: path)
    (hedit : ∀ actor, atPath? actors path = some actor → (edit actor).children = actor.children) :
    atPath? (editAt edit actors path) q = atPath? actors q := by
  induction path generalizing actors q with
  | nil => rfl
  | cons i path ih =>
    obtain _ | ⟨j, q⟩ := q
    · exact absurd List.nil_prefix h
    rw [editAt, atPath?, atPath?]
    -- the paths part here, or further in
    by_cases hij : i = j
    · subst hij
      have hq : ¬ q <+: path := fun hq => h (List.cons_prefix_cons.2 ⟨rfl, hq⟩)
      have hne : q ≠ [] := fun hnil => hq (hnil ▸ List.nil_prefix)
      rw [List.getElem?_modify_eq]
      cases hactor : actors[i]? with
      | none => rfl
      | some actor =>
        simp only [atPath?, hactor, Option.bind_some] at hedit
        by_cases hpath : path = []
        · simp only [hpath, if_true] at hedit
          simp [hpath, hne, hedit actor rfl]
        · simp only [hpath, if_false] at hedit
          simp [hpath, hne, ih hq hedit]
    · rw [List.getElem?_modify_ne _ _ hij]

/-- An edit that leaves the actor at its path as it is, or finds none, changes
nothing. -/
theorem editAt_of_fixed {path : List Nat}
    (h : ∀ actor, atPath? actors path = some actor → edit actor = actor) :
    editAt edit actors path = actors := by
  induction path generalizing actors with
  | nil => rfl
  | cons i path ih =>
    rw [editAt, List.modify_eq_set_getElem?]
    cases hactor : actors[i]? with
    | none => rfl
    | some actor =>
      obtain ⟨base, kind, children⟩ := actor
      simp only [atPath?, hactor, Option.bind_some] at h
      have hfixed : (if path = [] then edit ⟨base, kind, children⟩ else
          ⟨base, kind, editAt edit children path⟩) = ⟨base, kind, children⟩ := by
        by_cases hpath : path = []
        · rw [if_pos hpath]
          exact h _ (if_pos hpath)
        · rw [if_neg hpath, ih (by simpa [hpath] using h)]
      obtain ⟨hi, hthere⟩ := List.getElem?_eq_some_iff.1 hactor
      have hset := List.set_getElem_self hi
      rw [hthere] at hset
      rw [Option.map_eq_map, Option.map_some, Option.getD_some, hfixed, hset]

/-! ## Edits that arrive or do not -/

/-- The actors with the one at a path edited, or nothing where the path leads
nowhere. -/
def editAt? (edit : Actor → Actor) (actors : List Actor) : List Nat → Option (List Actor)
  | [] => none
  | i :: path => actors[i]?.bind fun actor =>
      if path = [] then some (actors.set i (edit actor))
      else (editAt? edit actor.children path).map fun children =>
        actors.set i { actor with children }

/-- The actors with the first one of a name edited, or nothing where there is
none. -/
def editNamed? (edit : Actor → Actor) (actors : List Actor) (name : String) :
    Option (List Actor) :=
  (pathOf? actors name).bind (editAt? edit actors)

/-- **An edit arrives exactly where there is an actor**, and is then the edit at
that path. -/
theorem editAt?_eq (edit : Actor → Actor) (actors : List Actor) (path : List Nat) :
    editAt? edit actors path = (atPath? actors path).map fun _ => editAt edit actors path := by
  induction path generalizing actors with
  | nil => rfl
  | cons i path ih =>
    rw [editAt?, atPath?, editAt, List.modify_eq_set_getElem?]
    cases actors[i]? with
    | none => rfl
    | some actor =>
      by_cases hpath : path = []
      · simp [hpath]
      · simp [hpath, ih, Function.comp_def]

/-- An edit that does not arrive changes nothing. -/
theorem editAt_eq_getD (edit : Actor → Actor) (actors : List Actor) (path : List Nat) :
    editAt edit actors path = (editAt? edit actors path).getD actors := by
  rw [editAt?_eq]
  cases hactor : atPath? actors path with
  | some actor => rfl
  | none =>
    refine editAt_of_fixed fun actor hthere => ?_
    rw [hactor] at hthere
    cases hthere

/-! ## What an edit leaves -/

/-- What is an actor's own, with the number of its children. -/
def own (actor : Actor) : Base × Kind × Nat :=
  (actor.base, actor.kind, actor.children.length)

theorem length_editAt (edit : Actor → Actor) (actors : List Actor) (path : List Nat) :
    (editAt edit actors path).length = actors.length := by
  cases path with
  | nil => rfl
  | cons i path => exact List.length_modify _ _ _

/-- An edit was made at a path of a forest: there stands the actor edited, around
it are the same actors with as many children, and all other paths lead to what
they led to. -/
structure Edited (edit : Actor → Actor) (path : List Nat) (before after : List Actor) : Prop where
  there : ∃ actor, atPath? before path = some actor ∧ atPath? after path = some (edit actor)
  around : ∀ q, q <+: path → q ≠ path → (atPath? after q).map own = (atPath? before q).map own
  elsewhere : ∀ q, ¬ q <+: path → atPath? after q = atPath? before q
  length_eq : after.length = before.length

/-- **An edit of an actor's own things is local.** -/
theorem edited_of_editAt? {path : List Nat} {after : List Actor}
    (hedit : ∀ actor, atPath? actors path = some actor → (edit actor).children = actor.children)
    (h : editAt? edit actors path = some after) : Edited edit path actors after := by
  rw [editAt?_eq, Option.map_eq_some_iff] at h
  obtain ⟨actor, hactor, rfl⟩ := h
  refine ⟨⟨actor, hactor, ?_⟩, fun q hq hne => ?_, fun q hq => ?_, length_editAt edit actors path⟩
  · rw [atPath?_editAt_self, hactor, Option.map_some]
  · obtain ⟨rest, rfl⟩ := hq
    have hrest : rest ≠ [] := by simpa using hne
    rw [atPath?_editAt_append edit actors q hrest, Option.map_map]
    congr 1
    funext outer
    simp [own, length_editAt]
  · exact atPath?_editAt_of_not_prefix hq hedit

end Edit

/-- **Looking up by name, by path and editing agree.** A path is found for a name
exactly where an actor is, and an edit by name arrives there too; the path leads to
that actor, which bears the name, and is the first of all that lead to an actor of
the name. An edit at a path arrives exactly where looking up does. Where it is of an
actor's own things, it is local, whether the actor was reached by path or by name. -/
theorem lookups_agree (actors : List Actor) :
    (∀ name,
      ((pathOf? actors name).isSome ↔ (find? name actors).isSome) ∧
      (∀ edit, (editNamed? edit actors name).isSome ↔ (find? name actors).isSome) ∧
      ∀ path, pathOf? actors name = some path →
        ∃ actor, find? name actors = some actor ∧ atPath? actors path = some actor ∧
          actor.name = some name ∧
          ∀ q other, atPath? actors q = some other → other.name = some name →
            q = path ∨ List.Lex (· < ·) path q) ∧
    ∀ edit path,
      ((editAt? edit actors path).isSome ↔ (atPath? actors path).isSome) ∧
      editAt edit actors path = (editAt? edit actors path).getD actors ∧
      ((∀ actor, atPath? actors path = some actor → (edit actor).children = actor.children) →
        (∀ after, editAt? edit actors path = some after → Edited edit path actors after) ∧
        ∀ name after, pathOf? actors name = some path →
          editNamed? edit actors name = some after → Edited edit path actors after) := by
  constructor
  · intro name
    have hpath : pathOf? actors name = ((paintedFrom 0 actors).find? (bears name)).map (·.1) :=
      pathFrom?_eq_find? name 0 actors
    simp only [find?_eq_find? name 0, editNamed?, hpath]
    cases hfirst : (paintedFrom 0 actors).find? (bears name) with
    | none => simp
    | some entry =>
      obtain ⟨hat, hname, hleast⟩ := first_of_find? hfirst
      refine ⟨by simp, fun edit => by simp [editAt?_eq, hat], fun path hpath => ?_⟩
      cases hpath
      exact ⟨entry.2, rfl, hat, hname, hleast⟩
  · intro edit path
    refine ⟨by rw [editAt?_eq, Option.isSome_map], editAt_eq_getD edit actors path, fun hedit => ?_⟩
    refine ⟨fun after => edited_of_editAt? hedit, fun name after hpath hafter => ?_⟩
    rw [editNamed?, hpath] at hafter
    exact edited_of_editAt? hedit hafter

/-- Two texts of one name, at different depths, beside a table. -/
def rack : List Actor :=
  let title : Actor := { (label "Title") with base := { name := some "title" } }
  [table, group [label "Text", container, { group [title] with base := { name := some "box" } }],
    title]

/-- The deeper of the two titles is painted first, and is the one that a name
reaches. -/
theorem lookups_agree_rack :
    let edit := fun actor : Actor => actor.editBase fun base => { base with visible := false }
    pathOf? rack "title" = some [1, 2, 0] ∧
      (∀ actor, atPath? rack [1, 2, 0] = some actor → (edit actor).children = actor.children) ∧
      ∃ after, editNamed? edit rack "title" = some after ∧ Edited edit [1, 2, 0] rack after := by
  intro edit
  have hpath : pathOf? rack "title" = some [1, 2, 0] := by cbv
  have hedit : ∀ actor, atPath? rack [1, 2, 0] = some actor →
      (edit actor).children = actor.children := fun _ _ => rfl
  obtain ⟨after, hafter⟩ : ∃ after, editNamed? edit rack "title" = some after := by
    rw [editNamed?, hpath]
    exact ⟨_, rfl⟩
  have hlocal := (((lookups_agree rack).2 edit [1, 2, 0]).2.2 hedit).2
  exact ⟨hpath, hedit, after, hafter, hlocal "title" after hpath hafter⟩

end Actor
end SceneScript
