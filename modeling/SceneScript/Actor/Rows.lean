/-!
# Actors — the rows of a table

A table divides its children into rows. A row break after a child starts a
new row; before the first child, and after another break, it does nothing,
so that no row is empty.
-/

namespace SceneScript

/-- Which row each child of a table is in, and which the next one joins. -/
structure Rows where
  /-- The row of each child, in order. -/
  ofChild : List Nat := []
  /-- The row of the next child. -/
  next : Nat := 0

namespace Rows

/-- One more child. -/
def add (rows : Rows) : Rows :=
  { rows with ofChild := rows.ofChild ++ [rows.next] }

/-- A row break. -/
def breakRow (rows : Rows) : Rows :=
  if rows.ofChild.getLast? = some rows.next then { rows with next := rows.next + 1 } else rows

/-- How many rows hold a child. -/
def count (rows : Rows) : Nat :=
  rows.ofChild.getLast?.elim 0 (· + 1)

/-- The children in a row. -/
def cells {α : Type} (rows : Rows) (children : List α) (row : Nat) : List α :=
  ((children.zip rows.ofChild).filter (·.2 == row)).map (·.1)

end Rows

end SceneScript
