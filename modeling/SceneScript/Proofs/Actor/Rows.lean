import Mathlib.Data.List.Induction
import SceneScript.Builtin.Elements
/-!
# Actors — the rows of a table

A table is filled by putting children into it and by breaking the row, in any
order (`Filling`). Its rows are the children between two breaks, where there are
any (`Filling.groups`).

The table does not keep its rows apart. It numbers its children, and puts a break
off until a child follows it. What carries through the filling is that the numbers
are those of the rows that are over, none of which is empty, and of the row that
the next child joins (`Rows.Laid`). All that is read off a table follows from the
numbers alone (`Rows.Numbers`).
-/

namespace SceneScript

/-- Groups of children, without those that have none. -/
def Rows.occupied {α : Type} (groups : List (List α)) : List (List α) :=
  groups.filter fun group => !group.isEmpty

theorem Rows.flatten_occupied {α : Type} (groups : List (List α)) :
    (occupied groups).flatten = groups.flatten :=
  List.flatten_filter_not_isEmpty

/-! ## Filling a table -/

/-- What is done to a table: a child is put into it, or the row is broken. -/
inductive Filling where
  | cell (child : Actor)
  | row

namespace Filling

open Rows (occupied)

/-- Whether the row is broken. -/
def isRow : Filling → Bool
  | cell _ => false
  | row => true

/-- The child that is put in. -/
def child? : Filling → Option Actor
  | cell child => some child
  | row => none

/-- The children that are put in, in order. -/
def children (steps : List Filling) : List Actor :=
  steps.filterMap child?

/-- The children put in between two breaks, where there are any. -/
def groups (steps : List Filling) : List (List Actor) :=
  occupied ((steps.splitOnP isRow).map children)

/-- The same, where some children stand in the first row already. -/
def groupsAfter (current : List Actor) (steps : List Filling) : List (List Actor) :=
  occupied (((steps.splitOnP isRow).map children).modifyHead (current ++ ·))

theorem groupsAfter_empty (steps : List Filling) : groupsAfter [] steps = groups steps := by
  rw [groupsAfter, groups]
  cases (steps.splitOnP isRow).map children <;> rfl

theorem groupsAfter_nil (current : List Actor) : groupsAfter current [] = occupied [current] := by
  rw [groupsAfter, List.splitOnP_nil, List.map_singleton]
  simp [children]

/-- A child joins the first row. -/
theorem groupsAfter_cell (current : List Actor) (child : Actor) (steps : List Filling) :
    groupsAfter current (cell child :: steps) = groupsAfter (current ++ [child]) steps := by
  rw [groupsAfter, groupsAfter, List.splitOnP_cons_eq_if_modifyHead]
  cases steps.splitOnP isRow with
  | nil => rfl
  | cons first rest => simp [isRow, children, child?]

/-- A break ends the first row. -/
theorem groupsAfter_row (current : List Actor) (steps : List Filling) :
    groupsAfter current (row :: steps) = occupied [current] ++ groups steps := by
  rw [groupsAfter, groups, List.splitOnP_cons_eq_if_modifyHead, occupied, occupied, occupied,
    ← List.filter_append]
  simp [isRow, children]

end Filling

/-! ## Children numbered by their rows -/

namespace Rows

variable {α : Type}

/-- The number of the row of each child, where the rows are numbered from `k` on. -/
def numbered (k : Nat) : List (List α) → List Nat
  | [] => []
  | group :: rest => List.replicate group.length k ++ numbered (k + 1) rest

theorem numbered_append (k : Nat) (groups more : List (List α)) :
    numbered k (groups ++ more) = numbered k groups ++ numbered (k + groups.length) more := by
  induction groups generalizing k with
  | nil => rfl
  | cons group rest ih =>
    rw [List.cons_append, numbered, numbered, ih, List.append_assoc, List.length_cons,
      Nat.add_right_comm, Nat.add_assoc]

theorem length_numbered (k : Nat) (groups : List (List α)) :
    (numbered k groups).length = groups.flatten.length := by
  induction groups generalizing k with
  | nil => rfl
  | cons group rest ih => simp [numbered, ih]

/-- Only rows that are there are numbers of children. -/
theorem lt_of_mem_numbered {k r : Nat} {groups : List (List α)} (h : r ∈ numbered k groups) :
    k ≤ r ∧ r < k + groups.length := by
  induction groups generalizing k with
  | nil => cases h
  | cons group rest ih =>
    rw [numbered, List.mem_append, List.mem_replicate] at h
    rw [List.length_cons]
    rcases h with ⟨-, rfl⟩ | hrest
    · omega
    · have hlater := ih hrest
      omega

/-- The number of a child says between which children its row lies. -/
theorem getElem?_numbered {k i r : Nat} {groups : List (List α)} :
    (numbered k groups)[i]? = some r ↔ ∃ j, r = k + j ∧
      (groups.take j).flatten.length ≤ i ∧ i < (groups.take (j + 1)).flatten.length := by
  induction groups generalizing k i with
  | nil => simp [numbered]
  | cons group rest ih =>
    rw [numbered, List.getElem?_append, List.length_replicate]
    by_cases hi : i < group.length
    · rw [if_pos hi, List.getElem?_replicate, if_pos hi, Option.some.injEq]
      constructor
      · rintro rfl
        exact ⟨0, rfl, by simp, by simpa using hi⟩
      · rintro ⟨_ | j, rfl, hfrom, -⟩
        · rfl
        · rw [List.take_succ_cons, List.flatten_cons, List.length_append] at hfrom
          omega
    · rw [if_neg hi, ih]
      constructor
      · rintro ⟨j, rfl, hfrom, hto⟩
        refine ⟨j + 1, by omega, ?_, ?_⟩
        · rw [List.take_succ_cons, List.flatten_cons, List.length_append]
          omega
        · rw [List.take_succ_cons, List.flatten_cons, List.length_append]
          omega
      · rintro ⟨_ | j, rfl, hfrom, hto⟩
        · simp at hto
          omega
        · rw [List.take_succ_cons, List.flatten_cons, List.length_append] at hfrom hto
          exact ⟨j, by omega, by omega, by omega⟩

/-- The children that bear the number of a row are those of the row. -/
theorem filter_numbered (k r : Nat) (groups : List (List α)) :
    ((groups.flatten.zip (numbered k groups)).filter (·.2 == k + r)).map (·.1) =
      groups[r]?.getD [] := by
  induction groups generalizing k r with
  | nil => rfl
  | cons group rest ih =>
    have hzip := List.zip_map' (f := id) (g := fun _ => k) (l := group)
    rw [List.map_id, List.map_const'] at hzip
    rw [List.flatten_cons, numbered, List.zip_append (by simp), List.filter_append,
      List.map_append, hzip]
    cases r with
    | zero =>
      have hlater : (rest.flatten.zip (numbered (k + 1) rest)).filter (·.2 == k + 0) = [] := by
        refine List.filter_eq_nil_iff.2 fun entry hentry => ?_
        have hlt := lt_of_mem_numbered (List.of_mem_zip hentry).2
        simp
        omega
      have hall : (group.map fun child => (id child, k)).filter (·.2 == k + 0) =
          group.map fun child => (id child, k) := by
        refine List.filter_eq_self.2 fun entry hentry => ?_
        obtain ⟨child, -, rfl⟩ := List.mem_map.1 hentry
        simp
      rw [hlater, hall, List.map_map, List.map_nil, List.append_nil]
      exact List.map_id group
    | succ r =>
      have hnone : (group.map fun child => (id child, k)).filter (·.2 == k + (r + 1)) = [] := by
        refine List.filter_eq_nil_iff.2 fun entry hentry => ?_
        obtain ⟨child, -, rfl⟩ := List.mem_map.1 hentry
        simp
      have hnext := ih (k + 1) r
      rw [Nat.add_assoc, Nat.add_comm 1 r] at hnext
      rw [hnone, hnext]
      rfl

/-- Children stand in rows, none of which is empty, and are numbered by them. -/
structure Numbers (rows : Rows) (groups : List (List α)) : Prop where
  ofChild_eq : rows.ofChild = numbered 0 groups
  ne_nil : ∀ group ∈ groups, group ≠ []

namespace Numbers

variable {rows : Rows} {groups : List (List α)}

/-- The last child stands in the last row. -/
theorem count_eq (h : rows.Numbers groups) : rows.count = groups.length := by
  rw [count, h.ofChild_eq]
  have hoccupied := h.ne_nil
  clear h
  induction groups using List.reverseRecOn with
  | nil => rfl
  | append_singleton earlier last _ =>
    have hlast : last ≠ [] := hoccupied last (by simp)
    rw [numbered_append, numbered, numbered, List.append_nil, Nat.zero_add, List.getLast?_append,
      List.getLast?_replicate, if_neg (by simpa using hlast)]
    simp

/-- **The cells of a row are the children of that group.** -/
theorem cells_eq (h : rows.Numbers groups) (r : Nat) :
    rows.cells groups.flatten r = groups[r]?.getD [] := by
  have hcells := filter_numbered 0 r groups
  rw [Nat.zero_add] at hcells
  rw [cells, h.ofChild_eq, hcells]

end Numbers

/-! ## What carries through a filling -/

/-- Children stand in rows that are over, none of which is empty, and in one that
the next child joins. -/
structure Laid (rows : Rows) (ended : List (List α)) (current : List α) : Prop where
  ofChild_eq : rows.ofChild = numbered 0 ended ++ List.replicate current.length ended.length
  next_eq : rows.next = ended.length
  ne_nil : ∀ group ∈ ended, group ≠ []

namespace Laid

variable {rows : Rows} {ended : List (List α)} {current : List α}

theorem new : Laid {} ([] : List (List α)) [] :=
  ⟨rfl, rfl, List.forall_mem_nil _⟩

/-- A child joins the current row. -/
theorem add (h : rows.Laid ended current) (child : α) :
    rows.add.Laid ended (current ++ [child]) where
  ofChild_eq := by
    rw [Rows.add, h.ofChild_eq, h.next_eq, List.length_append, List.length_singleton,
      List.replicate_succ', List.append_assoc]
  next_eq := h.next_eq
  ne_nil := h.ne_nil

/-- A break where the current row is empty does nothing. -/
theorem breakRow_of_empty (h : rows.Laid ended ([] : List α)) : rows.breakRow = rows := by
  refine if_neg fun hlast => ?_
  have hmem := List.mem_of_getLast? hlast
  rw [h.ofChild_eq, List.length_nil, List.replicate_zero, List.append_nil, h.next_eq] at hmem
  have hlt := lt_of_mem_numbered hmem
  omega

/-- A break where the current row has a child ends it. -/
theorem breakRow (h : rows.Laid ended current) (hcurrent : current ≠ []) :
    rows.breakRow.Laid (ended ++ [current]) [] := by
  have hlast : rows.ofChild.getLast? = some rows.next := by
    rw [h.ofChild_eq, h.next_eq, List.getLast?_append, List.getLast?_replicate,
      if_neg (by simpa using hcurrent)]
    rfl
  rw [Rows.breakRow, if_pos hlast]
  refine ⟨?_, by simp [h.next_eq], ?_⟩
  · simp [h.ofChild_eq, numbered_append, numbered]
  · intro group hgroup
    rcases List.mem_append.1 hgroup with hover | hnew
    · exact h.ne_nil group hover
    · rwa [List.mem_singleton.1 hnew]

/-- When a table is filled, its rows are those that are over and the current one,
where that has a child. -/
theorem numbers (h : rows.Laid ended current) : rows.Numbers (ended ++ occupied [current]) := by
  by_cases hcurrent : current = []
  · subst hcurrent
    exact ⟨by simp [h.ofChild_eq, occupied], by simpa [occupied] using h.ne_nil⟩
  · have hkept : occupied [current] = [current] := by simpa [occupied] using hcurrent
    rw [hkept]
    refine ⟨by simp [h.ofChild_eq, numbered_append, numbered], fun group hgroup => ?_⟩
    rcases List.mem_append.1 hgroup with hover | hnew
    · exact h.ne_nil group hover
    · rwa [List.mem_singleton.1 hnew]

end Laid

/-- A break after a break does nothing. -/
theorem breakRow_breakRow (rows : Rows) : rows.breakRow.breakRow = rows.breakRow := by
  unfold breakRow
  split
  next hlast => exact if_neg (by simp [hlast])
  next => rfl

/-- A break moves no child. -/
theorem exists_breakRow (rows : Rows) : ∃ next, rows.breakRow = { rows with next } := by
  unfold breakRow
  split
  · exact ⟨_, rfl⟩
  · exact ⟨_, rfl⟩

/-- What is read off a table tells its children apart by their groups: how many rows
there are, which children are in a row, and which row a child is in. -/
structure Reads (rows : Rows) (children : List α) (groups : List (List α)) : Prop where
  cells_eq : (List.range rows.count).map (rows.cells children) = groups
  cells_of_le : ∀ r, rows.count ≤ r → rows.cells children r = []
  flatten_eq : groups.flatten = children
  ofChild_iff : ∀ i r, rows.ofChild[i]? = some r ↔
    (groups.take r).flatten.length ≤ i ∧ i < (groups.take (r + 1)).flatten.length
  ofChild_eq_none_iff : ∀ i, rows.ofChild[i]? = none ↔ children.length ≤ i

/-- **All that is read off a table follows from the numbers of its children.** -/
theorem Numbers.reads {rows : Rows} {groups : List (List α)} (h : rows.Numbers groups) :
    rows.Reads groups.flatten groups where
  cells_eq := by
    rw [h.count_eq, funext h.cells_eq]
    refine List.ext_getElem (by simp) fun r hr hr' => ?_
    simp [List.getElem?_eq_getElem hr']
  cells_of_le r hr := by
    rw [h.cells_eq, List.getElem?_eq_none (h.count_eq ▸ hr), Option.getD_none]
  flatten_eq := rfl
  ofChild_iff i r := by
    rw [h.ofChild_eq, getElem?_numbered]
    simp
  ofChild_eq_none_iff i := by
    rw [h.ofChild_eq, List.getElem?_eq_none_iff, length_numbered]

end Rows

/-! ## Tables -/

namespace Filling

/-- Nothing is lost in the groups. -/
theorem flatten_groupsAfter (current : List Actor) (steps : List Filling) :
    (groupsAfter current steps).flatten = current ++ children steps := by
  induction steps generalizing current with
  | nil => simp [groupsAfter_nil, Rows.flatten_occupied, children]
  | cons step rest ih =>
    cases step with
    | cell child =>
      rw [groupsAfter_cell, ih]
      simp [children, child?]
    | row =>
      have hrow : children (.row :: rest) = children rest := rfl
      rw [groupsAfter_row, ← groupsAfter_empty, List.flatten_append, ih, hrow]
      simp [Rows.flatten_occupied]

end Filling

namespace Actor

/-- A table after a step of its filling. -/
def fill (table : Actor) : Filling → Actor
  | .cell child => (table.add? child).getD table
  | .row => table.breakRow?.getD table

/-- A table after its filling. -/
def fillAll (table : Actor) (steps : List Filling) : Actor :=
  steps.foldl fill table

theorem fillAll_append (table : Actor) (steps later : List Filling) :
    table.fillAll (steps ++ later) = (table.fillAll steps).fillAll later :=
  List.foldl_append

/-- A break after a break does nothing to a table. -/
theorem fill_row_row (table : Actor) : (table.fill .row).fill .row = table.fill .row := by
  obtain ⟨base, kind, children⟩ := table
  cases kind with
  | table rows pad =>
    have htwice := rows.breakRow_breakRow
    exact congrArg (fun rows => (⟨base, .table rows pad, children⟩ : Actor)) htwice
  | _ => rfl

/-- **A filling carries the rows through**, from whatever they are when it begins. -/
theorem exists_fillAll {rows : Rows} {ended : List (List Actor)} {current : List Actor}
    (h : rows.Laid ended current) (base : Base) (pad : Float32) (children : List Actor)
    (steps : List Filling) : ∃ rows' ended' current',
      fillAll ⟨base, .table rows pad, children⟩ steps =
        ⟨base, .table rows' pad, children ++ Filling.children steps⟩ ∧
      rows'.Laid ended' current' ∧
      ended' ++ Rows.occupied [current'] = ended ++ Filling.groupsAfter current steps := by
  induction steps generalizing rows ended current children with
  | nil =>
    refine ⟨rows, ended, current, ?_, h, ?_⟩
    · simp [fillAll, Filling.children]
    · rw [Filling.groupsAfter_nil]
  | cons step rest ih =>
    cases step with
    | cell child =>
      obtain ⟨rows', ended', current', hfilled, hlaid, hgroups⟩ :=
        ih (h.add child) (children ++ [child])
      refine ⟨rows', ended', current', ?_, hlaid, ?_⟩
      · have hstep : fillAll ⟨base, .table rows pad, children⟩ (.cell child :: rest) =
            fillAll ⟨base, .table rows.add pad, children ++ [child]⟩ rest := rfl
        rw [hstep, hfilled]
        simp [Filling.children, Filling.child?]
      · rw [hgroups, Filling.groupsAfter_cell]
    | row =>
      have hstep : fillAll ⟨base, .table rows pad, children⟩ (.row :: rest) =
          fillAll ⟨base, .table rows.breakRow pad, children⟩ rest := rfl
      rw [hstep, Filling.groupsAfter_row, ← Filling.groupsAfter_empty]
      -- a break ends a row that holds something, and does nothing to one that does not
      by_cases hcurrent : current = []
      · subst hcurrent
        rw [h.breakRow_of_empty]
        exact ih h children
      · have hkept : Rows.occupied [current] = [current] := by
          simpa [Rows.occupied] using hcurrent
        rw [hkept, ← List.append_assoc]
        exact ih (h.breakRow hcurrent) children

/-- **A new table that is filled shows the groups it was filled with.** -/
theorem exists_reads_fillAll (pad : Float32) (steps : List Filling) : ∃ rows,
    (table pad).fillAll steps = ⟨{}, .table rows pad, Filling.children steps⟩ ∧
      rows.Reads (Filling.children steps) (Filling.groups steps) := by
  obtain ⟨rows, ended, current, hfilled, hlaid, hgroups⟩ :=
    exists_fillAll Rows.Laid.new {} pad [] steps
  rw [Filling.groupsAfter_empty, List.nil_append] at hgroups
  have hreads := hlaid.numbers.reads
  have hchildren := Filling.flatten_groupsAfter [] steps
  rw [Filling.groupsAfter_empty, List.nil_append] at hchildren
  rw [hgroups, hchildren] at hreads
  exact ⟨rows, hfilled, hreads⟩

end Actor

namespace Builtin

variable {σ : Type}

/-- What the children of a node do to a table: `row` breaks the row, in any case of
ASCII letters, and any other node puts in the actor it becomes, if it does. -/
def fillings : List (Offspring σ) → StateM σ (List Filling)
  | [] => pure []
  | child :: rest =>
    if Text.alike child.node.name "row" then do
      let later ← fillings rest
      pure (.row :: later)
    else do
      let actor ← child.resolve
      let later ← fillings rest
      pure (actor.toList.map .cell ++ later)

/-- A table of nodes is filled by what they do to it. -/
theorem fillTable_eq_fillAll (children : List (Offspring σ)) (table : Actor) :
    fillTable children table = (fun steps => table.fillAll steps) <$> fillings children := by
  induction children generalizing table with
  | nil => rfl
  | cons child rest ih =>
    rw [fillTable, fillings]
    split
    · rw [ih]
      rfl
    · rw [map_bind]
      refine bind_congr fun actor => ?_
      rw [ih]
      cases actor <;> rfl

end Builtin

/-- **The rows of a table are the children between its breaks.** However a new table
is filled, its rows, as far as it counts them, are the groups of children that
were put in between two breaks, where there are any; a break before the first child,
after the last or after another break has no effect. A table that is built from a
node is one that is filled, with what becomes of the nodes inside. -/
theorem Actor.fillAll_rows :
    (∀ (pad : Float32) (steps : List Filling),
      (∃ rows next,
        (Actor.table pad).fillAll steps = ⟨{}, .table rows pad, Filling.children steps⟩ ∧
        rows.Reads (Filling.children steps) (Filling.groups steps) ∧
        (Actor.table pad).fillAll (steps ++ [.row]) =
          ⟨{}, .table { rows with next } pad, Filling.children steps⟩) ∧
      (Actor.table pad).fillAll (.row :: steps) = (Actor.table pad).fillAll steps ∧
      ∀ later, (Actor.table pad).fillAll (steps ++ [.row, .row] ++ later) =
        (Actor.table pad).fillAll (steps ++ [.row] ++ later)) ∧
    ∀ (σ : Type) (ctx : Context σ), Builtin.tableOf ctx =
      (fun steps => some ((Actor.table ((ctx.number? "pad").getD 0)).fillAll steps)) <$>
        Builtin.fillings ctx.children := by
  refine ⟨fun pad steps => ?_, fun σ ctx => ?_⟩
  · obtain ⟨rows, hfilled, hreads⟩ := exists_reads_fillAll pad steps
    obtain ⟨next, hbroken⟩ := rows.exists_breakRow
    refine ⟨⟨rows, next, hfilled, hreads, ?_⟩, rfl, fun later => ?_⟩
    · rw [← hbroken, fillAll_append, hfilled]
      rfl
    · have htwice := fill_row_row ((Actor.table pad).fillAll steps)
      rw [fillAll_append, fillAll_append, fillAll_append, fillAll_append]
      exact congrArg (fun table => table.fillAll later) htwice
  · rw [Builtin.tableOf, Builtin.fillTable_eq_fillAll]
    rfl

/-- Breaks at both ends and one after the other make no rows. -/
example (a b c : Actor) :
    Filling.groups [.row, .cell a, .cell b, .row, .row, .cell c, .row] = [[a, b], [c]] := rfl

end SceneScript
