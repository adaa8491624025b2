import Mathlib.Data.List.DropRight
import SceneScript.Markup.Position
/-!
# Markup — places in a source

Positions are carried along a source one character at a time. Here they are
said at once: `behind` counts the line feeds of a stretch and the characters
after the last of them. Places grow along a source, and where a source stands
behind another one all its places move alike (`moved_behind`); both are read off
`after_eq`.
-/

namespace SceneScript

namespace Markup

namespace Position

/-- The place behind a stretch at the start of a source: one line more than it
has line feeds, and one column more than it has characters since the last. -/
def behind (cs : List Char) : Position :=
  ⟨cs.count '\n' + 1, (cs.rtakeWhile (· ≠ '\n')).length + 1⟩

theorem behind_nil : behind [] = start := rfl

/-- A place comes before another one: on an earlier line, or further left on
the same. -/
instance : LT Position where
  lt p q := p.line < q.line ∨ p.line = q.line ∧ p.col < q.col

/-- A place of a source, when the source stands behind the place `e` of another
one: on its first line it goes on in the line of `e`. -/
def moved (e p : Position) : Position :=
  if p.line = 1 then ⟨e.line, e.col + p.col - 1⟩ else ⟨e.line + p.line - 1, p.col⟩

theorem lt_iff {p q : Position} : p < q ↔ p.line < q.line ∨ p.line = q.line ∧ p.col < q.col :=
  Iff.rfl

/-- **Where a stretch leads**: as many lines on as it has line feeds, and as many
columns on as it has characters, or behind those since its last line feed. -/
theorem after_eq (p : Position) (cs : List Char) :
    p.after cs = ⟨p.line + cs.count '\n',
      if '\n' ∈ cs then (cs.rtakeWhile (· ≠ '\n')).length + 1 else p.col + cs.length⟩ := by
  induction cs using List.reverseRecOn with
  | nil => simp
  | append_singleton cs c ih =>
    rw [after_append, ih, after_cons, after_nil, next]
    by_cases hc : c = '\n'
    · simp [hc, List.rtakeWhile_concat_neg, Nat.add_assoc]
    · by_cases hmem : '\n' ∈ cs
      · simp [hc, hmem, Ne.symm hc]
      · simp [hc, hmem, Ne.symm hc, Nat.add_assoc]

/-- Positions carried from the start of a source are those behind its stretches. -/
theorem after_start (cs : List Char) : start.after cs = behind cs := by
  rw [after_eq, behind, start, Nat.add_comm 1]
  by_cases hmem : '\n' ∈ cs
  · rw [if_pos hmem]
  · have htake : cs.rtakeWhile (· ≠ '\n') = cs := by
      rw [List.rtakeWhile_eq_self_iff]
      intro c hc
      exact decide_eq_true fun hfeed => hmem (hfeed ▸ hc)
    rw [if_neg hmem, htake, Nat.add_comm 1]

/-- **Places grow**: behind something is after where it starts. -/
theorem lt_after {p : Position} {cs : List Char} (h : cs ≠ []) : p < p.after cs := by
  have hlength : 0 < cs.length := List.length_pos_iff.2 h
  rw [after_eq, lt_iff]
  by_cases hmem : '\n' ∈ cs
  · have hcount : 0 < cs.count '\n' := List.count_pos_iff.2 hmem
    left
    dsimp only
    omega
  · have hcount : cs.count '\n' = 0 := List.count_eq_zero.2 hmem
    right
    rw [if_neg hmem]
    dsimp only
    omega

theorem behind_append (cs ds : List Char) : behind (cs ++ ds) = (behind cs).after ds := by
  rw [← after_start, ← after_start, after_append]

/-- **A source behind another one has its places moved** by where that one ends. -/
theorem moved_behind (e : Position) (cs : List Char) : e.moved (behind cs) = e.after cs := by
  rw [← after_start, after_eq, after_eq, moved, start]
  by_cases hmem : '\n' ∈ cs
  · have hcount : 0 < cs.count '\n' := List.count_pos_iff.2 hmem
    have hline : 1 + cs.count '\n' ≠ 1 := by omega
    have hmoved : e.line + (1 + cs.count '\n') - 1 = e.line + cs.count '\n' := by omega
    simp only [if_pos hmem, if_neg hline, hmoved]
  · have hcount : cs.count '\n' = 0 := List.count_eq_zero.2 hmem
    have hmoved : e.col + (1 + cs.length) - 1 = e.col + cs.length := by omega
    simp only [if_neg hmem, hcount, Nat.add_zero, if_true, hmoved]

end Position

end Markup

end SceneScript
