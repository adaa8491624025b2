import Mathlib.Data.List.Forall2
import SceneScript.Outline
import SceneScript.Proofs.Actor.Painted
/-!
# Actors — reading an outline

An outline has a line for the scene and one for each actor in painting order
(`Actor.outlineEach_eq`), which says how deep the actor stands and of what kind it is. A
name may hold anything but a line feed: the indentation ends before it, and so does the
kind.

That is enough to get the tree back (`Scene.WithinLines.ofOutline_outline`). What is inside
an actor are the lines after its own that are deeper, up to the first that is not; so a
reader that splits the lines there undoes the writing, and equal outlines come from equal
trees (`Scene.outline_tells`).
-/

namespace SceneScript

/-! ## Lines -/

namespace Text

/-- A text within one line. -/
def Unbroken (s : String) : Prop :=
  '\n' ∉ s.toList

instance (s : String) : Decidable (Unbroken s) :=
  inferInstanceAs (Decidable ('\n' ∉ s.toList))

@[simp] theorem unbroken_append {s t : String} : Unbroken (s ++ t) ↔ Unbroken s ∧ Unbroken t := by
  simp [Unbroken]

/-- The texts that line feeds divide. -/
def lines (s : String) : List (List Char) :=
  s.toList.splitOn '\n'

/-- **Lines that are each ended by a line feed are told apart**; nothing stands behind the
last. -/
theorem lines_join {texts : List String} (h : ∀ text ∈ texts, Unbroken text) :
    lines (String.join (texts.map (· ++ "\n"))) = texts.map String.toList ++ [[]] := by
  rw [lines, String.toList_join]
  induction texts with
  | nil => rfl
  | cons text rest ih =>
    have hrest := ih fun other hother => h other (List.mem_cons_of_mem _ hother)
    have htext : text.toList.splitOn '\n' = [text.toList] := by
      refine List.splitOnP_eq_singleton fun c hc => ?_
      rw [beq_eq_false_iff_ne]
      rintro rfl
      exact h text List.mem_cons_self hc
    have hfirst : (text ++ "\n").toList = text.toList ++ ['\n'] := String.toList_append
    rw [List.map_cons, List.flatMap_cons, hfirst, List.append_assoc, List.singleton_append]
    calc (text.toList ++ '\n' :: (rest.map (· ++ "\n")).flatMap String.toList).splitOn '\n'
        = text.toList.splitOn '\n' ++
            ((rest.map (· ++ "\n")).flatMap String.toList).splitOn '\n' :=
          List.splitOnP_append_cons _ _ (beq_self_eq_true _)
      _ = (text :: rest).map String.toList ++ [[]] := by rw [htext, hrest]; rfl

/-- How far a line is indented. -/
def indent (line : List Char) : Nat :=
  (line.takeWhile (· = ' ')).length

/-- The first word of a line. -/
def firstWord (line : List Char) : List Char :=
  (line.dropWhile (· = ' ')).takeWhile (· ≠ ' ')

section Line

variable {n : Nat} {word more : List Char}

/-- A line falls into its indentation and what begins with its first word. -/
theorem split_line (hne : word ≠ []) (hword : ' ' ∉ word) :
    (List.replicate n ' ' ++ word ++ ' ' :: more).takeWhile (· = ' ') = List.replicate n ' ' ∧
      (List.replicate n ' ' ++ word ++ ' ' :: more).dropWhile (· = ' ') =
        word ++ ' ' :: more := by
  obtain ⟨c, rest, rfl⟩ := List.exists_cons_of_ne_nil hne
  have hc : c ≠ ' ' := fun h => hword (h ▸ List.mem_cons_self)
  have hblank : ∀ b ∈ List.replicate n ' ', decide (b = ' ') = true := fun b hb =>
    decide_eq_true (List.eq_of_mem_replicate hb)
  rw [List.append_assoc, List.takeWhile_append_of_pos hblank,
    List.dropWhile_append_of_pos hblank]
  simp [hc]

theorem indent_line (hne : word ≠ []) (hword : ' ' ∉ word) :
    indent (List.replicate n ' ' ++ word ++ ' ' :: more) = n := by
  rw [indent, (split_line hne hword).1, List.length_replicate]

theorem firstWord_line (hne : word ≠ []) (hword : ' ' ∉ word) :
    firstWord (List.replicate n ' ' ++ word ++ ' ' :: more) = word := by
  have hletters : ∀ b ∈ word, decide (b ≠ ' ') = true := fun b hb =>
    decide_eq_true fun h => hword (h ▸ hb)
  rw [firstWord, (split_line hne hword).2, List.takeWhile_append_of_pos hletters]
  simp

end Line

end Text

open Text (Unbroken)

/-! ## Numbers and kinds -/

namespace Decimal

/-- A number written out has digits and a point. -/
theorem isDigit_or_of_mem_writtenOut {marks : Bool} {d : Digits} {c : Char}
    (h : c ∈ writtenOut marks d) : c.isDigit = true ∨ c = '.' := by
  have hdigit : ∀ {b}, b ∈ digitsOf d.digits → b.isDigit = true := fun hb =>
    Nat.isDigit_of_mem_toDigits (by omega) (by omega) hb
  have hzero : ∀ {n b}, b ∈ List.replicate n '0' → b.isDigit = true := by
    intro n b hb
    rw [List.eq_of_mem_replicate hb]
    rfl
  rw [writtenOut] at h
  split at h
  · rw [List.mem_append, List.mem_append] at h
    rcases h with (h | h) | h
    · exact .inl (hdigit h)
    · exact .inl (hzero h)
    · cases marks with
      | false => cases h
      | true =>
        rcases List.mem_pair.1 h with rfl | rfl
        · exact .inr rfl
        · exact .inl rfl
  · have hpadded : ∀ {n b}, b ∈ List.replicate n '0' ++ digitsOf d.digits → b.isDigit = true := by
      intro n b hb
      exact (List.mem_append.1 hb).elim hzero hdigit
    rcases List.mem_append.1 h with h | h
    · exact .inl (hpadded (List.mem_of_mem_take h))
    · rcases List.mem_cons.1 h with rfl | h
      · exact .inr rfl
      · exact .inl (hpadded (List.mem_of_mem_drop h))

/-- A number is written within one line. -/
theorem unbroken_writeSingle (x : Float32) : Unbroken (writeSingle x) := by
  rw [writeSingle]
  cases Format.single.decode x.toBits.toNat with
  | nan => decide
  | infinite negative => cases negative <;> decide
  | finite negative m q =>
    have hsize : ∀ d, '\n' ∉ writtenOut Style.plain.marksWhole d := by
      intro d h
      rcases isDigit_or_of_mem_writtenOut h with hdigit | hpoint
      · exact absurd hdigit (by decide)
      · exact absurd hpoint (by decide)
    have hfull : ∀ d, Style.plain.positive d = writtenOut Style.plain.marksWhole d := fun _ => rfl
    rw [Style.write, Unbroken, String.toList_ofList, hfull, ← apply_ite]
    cases negative <;> simp [hsize]

end Decimal

theorem Rect.unbroken_outlined (r : Rect) : Unbroken r.outlined := by
  have hbrackets : Unbroken "(" ∧ Unbroken ", " ∧ Unbroken " " ∧ Unbroken "x" ∧ Unbroken ")" := by
    decide
  obtain ⟨hopen, hcomma, hspace, htimes, hclose⟩ := hbrackets
  simp [Rect.outlined, Decimal.unbroken_writeSingle, hopen, hcomma, hspace, htimes, hclose]

/-- The word for a kind has letters only. -/
theorem Kind.all_isAlpha_name (kind : Kind) : kind.name.toList.all Char.isAlpha = true := by
  cases kind <;> simp [Kind.name]

theorem Kind.toList_name_ne_nil (kind : Kind) : kind.name.toList ≠ [] := by
  cases kind <;> simp [Kind.name]

/-- So it holds no other character. -/
theorem Kind.notMem_name (kind : Kind) {c : Char} (hc : c.isAlpha = false) :
    c ∉ kind.name.toList := by
  intro hmem
  have hletter := List.all_eq_true.1 kind.all_isAlpha_name c hmem
  rw [hc] at hletter
  cases hletter

namespace Actor

/-! ## The lines of actors -/

/-- The line of an actor at a depth. -/
def line (depth : Nat) (actor : Actor) : String :=
  String.ofList (List.replicate (2 * depth) ' ') ++ entry actor.base actor.kind

/-- What is told of actors in painting order, each as deep as its path is long. -/
def told {β : Type} (tell : Nat → Actor → β) (depth i : Nat) (actors : List Actor) : List β :=
  (paintedFrom i actors).map fun entry => tell (depth + entry.1.length) entry.2

theorem told_nil {β : Type} (tell : Nat → Actor → β) (depth i : Nat) :
    told tell depth i [] = [] := by
  rw [told, paintedFrom, List.map_nil]

theorem told_cons {β : Type} (tell : Nat → Actor → β) (depth i : Nat) (base : Base) (kind : Kind)
    (children rest : List Actor) :
    told tell depth i (⟨base, kind, children⟩ :: rest) =
      tell (depth + 1) ⟨base, kind, children⟩ ::
        (told tell (depth + 1) 0 children ++ told tell depth (i + 1) rest) := by
  have hinside : told tell (depth + 1) 0 children = (paintedFrom 0 children).map
      ((fun entry : List Nat × Actor => tell (depth + entry.1.length) entry.2) ∘
        fun entry => (i :: entry.1, entry.2)) := by
    refine List.map_congr_left fun entry _ => ?_
    have hdeeper : depth + 1 + entry.1.length = depth + (entry.1.length + 1) := by omega
    rw [Function.comp_apply, List.length_cons, hdeeper]
  rw [told, paintedFrom, List.cons_append, List.map_cons, List.map_append, List.map_map, hinside]
  rfl

/-- **An outline has a line for each actor**, in painting order. -/
theorem outlineEach_eq (depth : Nat) : ∀ (i : Nat) (actors : List Actor),
    outlineEach (depth + 1) actors = told line depth i actors
  | _, [] => by rw [outlineEach, told_nil]
  | i, ⟨base, kind, children⟩ :: rest => by
    have hinside := outlineEach_eq (depth + 1) 0 children
    have hrest := outlineEach_eq depth (i + 1) rest
    rw [outlineEach, told_cons, hinside, hrest]
    rfl

/-- What an entry says begins with the word for the kind. -/
theorem exists_toList_entry (base : Base) (kind : Kind) :
    ∃ more, (entry base kind).toList = kind.name.toList ++ ' ' :: more := by
  cases hname : base.name with
  | none =>
    refine ⟨(base.bounds.outlined ++ if base.visible then "" else " hidden").toList, ?_⟩
    simp [entry, hname]
  | some name =>
    refine ⟨("\x22" ++ name ++ "\x22" ++ " " ++ base.bounds.outlined ++
      if base.visible then "" else " hidden").toList, ?_⟩
    simp [entry, hname]

/-- **A line tells how deep its actor is and of what kind.** -/
theorem indent_line (depth : Nat) (actor : Actor) :
    Text.indent (line depth actor).toList = 2 * depth := by
  obtain ⟨more, hmore⟩ := exists_toList_entry actor.base actor.kind
  rw [line, String.toList_append, String.toList_ofList, hmore, ← List.append_assoc]
  exact Text.indent_line actor.kind.toList_name_ne_nil (actor.kind.notMem_name rfl)

theorem firstWord_line (depth : Nat) (actor : Actor) :
    Text.firstWord (line depth actor).toList = actor.kind.name.toList := by
  obtain ⟨more, hmore⟩ := exists_toList_entry actor.base actor.kind
  rw [line, String.toList_append, String.toList_ofList, hmore, ← List.append_assoc]
  exact Text.firstWord_line actor.kind.toList_name_ne_nil (actor.kind.notMem_name rfl)

/-- A line is one where the name is within a line. -/
theorem unbroken_line (depth : Nat) {actor : Actor}
    (h : ∀ name, actor.name = some name → Unbroken name) : Unbroken (line depth actor) := by
  have hindent : Unbroken (String.ofList (List.replicate (2 * depth) ' ')) := by
    rw [Unbroken, String.toList_ofList]
    intro hmem
    exact absurd (List.eq_of_mem_replicate hmem) (by decide)
  have hkind : Unbroken actor.kind.name := actor.kind.notMem_name rfl
  have hbounds : Unbroken actor.base.bounds.outlined := actor.base.bounds.unbroken_outlined
  have hspace : Unbroken " " := by decide
  have hhidden : Unbroken (if actor.base.visible then "" else " hidden") := by
    split <;> decide
  rw [line, entry]
  cases hname : actor.base.name with
  | none =>
    simp [hindent, hkind, hbounds, hspace, hhidden]
  | some name =>
    have hquoted : Unbroken " \x22" ∧ Unbroken name ∧ Unbroken "\x22" :=
      ⟨by decide, h name hname, by decide⟩
    simp [hindent, hkind, hbounds, hspace, hhidden, hquoted]

end Actor

/-! ## Shapes -/

/-- A tree of kinds. -/
inductive Shape where
  | node (kind : String) (inside : List Shape)

namespace Actor

mutual

/-- The kinds of an actor and of all that is inside it, as a tree. -/
def shape : Actor → Shape
  | ⟨_, kind, children⟩ => .node kind.name (shapeEach children)

/-- The trees of a list of actors. -/
def shapeEach : List Actor → List Shape
  | [] => []
  | actor :: rest => actor.shape :: shapeEach rest

end

/-- What the line of an actor tells: how far it is indented, and the kind. -/
def heading (depth : Nat) (actor : Actor) : Nat × List Char :=
  (2 * depth, actor.kind.name.toList)

/-- What is inside is deeper. -/
theorem lt_of_mem_told {depth i : Nat} {actors : List Actor} {entry : Nat × List Char}
    (h : entry ∈ told heading depth i actors) : 2 * depth < entry.1 := by
  obtain ⟨⟨path, actor⟩, hpainted, rfl⟩ := List.mem_map.1 h
  obtain ⟨k, rest, rfl, -⟩ := (mem_paintedFrom_iff i actors path actor).1 hpainted
  rw [heading, List.length_cons]
  omega

/-- And the next is not. -/
theorem not_lt_of_mem_head?_told {depth i : Nat} {actors : List Actor} {entry : Nat × List Char}
    (h : entry ∈ (told heading depth i actors).head?) : ¬ 2 * (depth + 1) < entry.1 := by
  cases actors with
  | nil =>
    rw [told_nil] at h
    cases h
  | cons actor rest =>
    obtain ⟨base, kind, children⟩ := actor
    rw [told_cons] at h
    cases h
    exact Nat.lt_irrefl _

end Actor

namespace Shape

open Actor (told heading)

/-- The trees that headings come from: inside an actor is what follows it and is deeper. -/
def ofHeadings : List (Nat × List Char) → List Shape
  | [] => []
  | (depth, kind) :: rest =>
    node (String.ofList kind) (ofHeadings (rest.takeWhile (depth < ·.1))) ::
      ofHeadings (rest.dropWhile (depth < ·.1))
termination_by headings => headings.length
decreasing_by
  · exact Nat.lt_succ_of_le (List.takeWhile_sublist _).length_le
  · exact Nat.lt_succ_of_le (List.dropWhile_sublist _).length_le

/-- **The headings tell the trees.** -/
theorem ofHeadings_told (depth : Nat) : ∀ (i : Nat) (actors : List Actor),
    ofHeadings (told heading depth i actors) = Actor.shapeEach actors
  | i, [] => by rw [Actor.told_nil, ofHeadings, Actor.shapeEach]
  | i, ⟨base, kind, children⟩ :: rest => by
    have hinside := ofHeadings_told (depth + 1) 0 children
    have hrest := ofHeadings_told depth (i + 1) rest
    have hdeeper : ∀ entry ∈ told heading (depth + 1) 0 children,
        decide (2 * (depth + 1) < entry.1) = true := fun entry hentry =>
      decide_eq_true (Actor.lt_of_mem_told hentry)
    have hstop : (told heading depth (i + 1) rest).takeWhile (2 * (depth + 1) < ·.1) = [] ∧
        (told heading depth (i + 1) rest).dropWhile (2 * (depth + 1) < ·.1) =
          told heading depth (i + 1) rest := by
      cases hnext : told heading depth (i + 1) rest with
      | nil => exact ⟨rfl, rfl⟩
      | cons next later =>
        have hfirst : next ∈ (told heading depth (i + 1) rest).head? := by
          rw [hnext]
          rfl
        simp [Actor.not_lt_of_mem_head?_told hfirst]
    rw [Actor.told_cons, heading, ofHeadings, List.takeWhile_append_of_pos hdeeper,
      List.dropWhile_append_of_pos hdeeper, hstop.1, hstop.2, List.append_nil, hinside, hrest,
      String.ofList_toList, Actor.shapeEach, Actor.shape]

end Shape

/-! ## Scenes -/

namespace Scene

/-- No name in a scene goes beyond a line: not its own, not that of its controller, and not
that of an actor. -/
structure WithinLines (scene : Scene) : Prop where
  name : Unbroken scene.name
  controller : ∀ name, scene.controller = some name → Unbroken name
  actors : ∀ path actor, scene.atPath? path = some actor →
    ∀ name, actor.name = some name → Unbroken name

variable {scene : Scene}

theorem WithinLines.unbroken_entry (h : scene.WithinLines) : Unbroken scene.entry := by
  have hcontroller : Unbroken (scene.controller.getD "-") := by
    cases hname : scene.controller with
    | none => decide
    | some name => exact h.controller name hname
  have hwords : Unbroken "scene \x22" ∧ Unbroken "\x22 controller=" ∧ Unbroken " " := by decide
  obtain ⟨hscene, hword, hspace⟩ := hwords
  simp [entry, h.name, hcontroller, scene.base.bounds.unbroken_outlined, hscene, hword, hspace]

/-- The lines for the actors of a scene. -/
theorem outlineLines_eq (scene : Scene) :
    scene.outlineLines = scene.entry :: Actor.told Actor.line 0 0 scene.actors := by
  rw [outlineLines, ← Actor.outlineEach_eq]

/-- **An outline falls into its lines.** -/
theorem WithinLines.lines_outline (h : scene.WithinLines) :
    Text.lines scene.outline = scene.entry.toList ::
      ((Actor.told Actor.line 0 0 scene.actors).map String.toList ++ [[]]) := by
  have hlines : ∀ text ∈ scene.outlineLines, Unbroken text := by
    intro text htext
    rw [outlineLines_eq] at htext
    rcases List.mem_cons.1 htext with rfl | hactor
    · exact h.unbroken_entry
    · obtain ⟨⟨path, actor⟩, hpainted, rfl⟩ := List.mem_map.1 hactor
      exact Actor.unbroken_line _ (h.actors path actor (mem_painted_iff.1 hpainted))
  rw [outline, Text.lines_join hlines, outlineLines_eq]
  rfl

end Scene

/-- The trees of an outline. -/
def Shape.ofOutline (text : String) : List Shape :=
  ofHeadings ((Text.lines text).tail.dropLast.map fun line =>
    (Text.indent line, Text.firstWord line))

namespace Scene

variable {scene : Scene}

/-- **An outline is read back.** -/
theorem WithinLines.ofOutline_outline (h : scene.WithinLines) :
    Shape.ofOutline scene.outline = Actor.shapeEach scene.actors := by
  have hheadings : ((Actor.told Actor.line 0 0 scene.actors).map String.toList).map
      (fun line => (Text.indent line, Text.firstWord line)) =
      Actor.told Actor.heading 0 0 scene.actors := by
    rw [Actor.told, Actor.told, List.map_map, List.map_map]
    refine List.map_congr_left fun entry _ => ?_
    rw [Function.comp_apply, Function.comp_apply, Actor.indent_line, Actor.firstWord_line]
    rfl
  rw [Shape.ofOutline, h.lines_outline, List.tail_cons, List.dropLast_concat, hheadings,
    Shape.ofHeadings_told]

/-- **The outline determines the tree.** Where no name goes beyond a line, an outline is the
line of the scene and one line for each actor, in painting order; the line of an actor is
indented by two spaces for each level and begins with its kind; and scenes of the same
outline have the same tree of kinds. -/
theorem outline_tells (scene : Scene) (h : scene.WithinLines) :
    (∃ lines, Text.lines scene.outline = scene.entry.toList :: (lines ++ [[]]) ∧
      List.Forall₂ (fun entry line => Text.indent line = 2 * entry.1.length ∧
        Text.firstWord line = entry.2.kind.name.toList) scene.painted lines) ∧
    ∀ other : Scene, other.WithinLines → other.outline = scene.outline →
      Actor.shapeEach other.actors = Actor.shapeEach scene.actors := by
  refine ⟨⟨(Actor.told Actor.line 0 0 scene.actors).map String.toList, h.lines_outline, ?_⟩,
    fun other hother heq => ?_⟩
  · rw [painted, Actor.told, List.map_map, List.forall₂_map_right_iff, List.forall₂_same]
    intro entry _
    rw [Function.comp_apply, Actor.indent_line, Actor.firstWord_line, Nat.zero_add]
    exact ⟨rfl, rfl⟩
  · rw [← hother.ofOutline_outline, ← h.ofOutline_outline, heq]

/-- A sign on a board and a picture, where the name of the sign looks like the end of its
line. -/
def lobby (text : String) : Scene :=
  let sign : Actor := { Actor.label text with base := { name := some "sign\x22 (0, 0 0x0)" } }
  { named "the lobby" (some "porter") with
    actors := [Actor.group [sign], Actor.image ⟨"seal", ⟨8, 8⟩⟩] }

theorem withinLines_lobby (text : String) : (lobby text).WithinLines where
  name := by
    change Unbroken "the lobby"
    decide
  controller := by
    rintro name ⟨⟩
    decide
  actors := by
    intro path actor hactor name hname
    have hpainted : (path, actor) ∈ (lobby text).painted := mem_painted_iff.2 hactor
    simp only [painted, lobby, named, Actor.paintedFrom, Actor.group, Actor.image, Actor.label,
      List.map_cons, List.map_nil, List.cons_append, List.nil_append, List.mem_cons,
      List.not_mem_nil, or_false, Prod.mk.injEq] at hpainted
    rcases hpainted with ⟨-, rfl⟩ | ⟨-, rfl⟩ | ⟨-, rfl⟩ <;> cases hname
    decide

/-- What the sign says does not show, the three actors do. -/
theorem outline_tells_lobby :
    (lobby "Open").WithinLines ∧ (lobby "Shut").WithinLines ∧
      (lobby "Shut").outline = (lobby "Open").outline ∧
      Actor.shapeEach (lobby "Shut").actors = Actor.shapeEach (lobby "Open").actors ∧
      ∃ lines, Text.lines (lobby "Open").outline =
        (lobby "Open").entry.toList :: (lines ++ [[]]) ∧ lines.length = 3 := by
  have hopen := withinLines_lobby "Open"
  have hshut := withinLines_lobby "Shut"
  have heq : (lobby "Shut").outline = (lobby "Open").outline := by
    simp [outline, outlineLines, lobby, named, entry, Scene.name, Actor.outlineEach, Actor.entry,
      Actor.group, Actor.image, Actor.label, Kind.name]
  obtain ⟨⟨lines, hlines, heach⟩, hshape⟩ := outline_tells (lobby "Open") hopen
  refine ⟨hopen, hshut, heq, hshape _ hshut heq, lines, hlines, ?_⟩
  rw [← heach.length_eq]
  simp [painted, lobby, Actor.paintedFrom, Actor.group, Actor.image, Actor.label]

end Scene

end SceneScript
