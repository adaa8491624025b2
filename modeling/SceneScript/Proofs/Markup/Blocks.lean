import SceneScript.Proofs.Markup.Spelling
/-!
# Markup — the shape of token lists

A source that scans gives blocks: a text, a closing tag, or a tag with its
attributes and one end, and after all of them the end of the source (`Blocks`).
Which token may come next depends on the mode of the scanner alone (`turn?`), and a
reading of the tokens stands in that same mode. So of what a reading can reject,
no token that is out of place is ever met (`not_stray_of_run`).
-/

namespace SceneScript

namespace Markup

/-! ## Blocks -/

/-- An attribute as a token. -/
def Attribute.token (a : Attribute) : Token :=
  .attr a.name a.value

/-- **The shape of token lists**: texts, closing tags, and tags with attributes and
one of the two ends, and at last one end of the source. -/
inductive Blocks : List Token → Prop
  | ends : Blocks [.eof]
  | text {content : String} {rest : List Token} : Blocks rest → Blocks (.text content :: rest)
  | closeTag {name : String} {rest : List Token} : Blocks rest → Blocks (.closeTag name :: rest)
  | tag {name : String} {attributes : List Attribute} {ending : Token} {rest : List Token} :
      ending = .tagEnd ∨ ending = .selfClose → Blocks rest →
      Blocks (.tagOpen name :: (attributes.map Attribute.token ++ ending :: rest))

/-- The shape in each mode: inside a tag the rest of its block comes first. -/
def Shaped : Mode → List Token → Prop
  | .content, tokens => Blocks tokens
  | .tag, tokens => ∃ (attributes : List Attribute) (ending : Token) (rest : List Token),
      (ending = .tagEnd ∨ ending = .selfClose) ∧ Blocks rest ∧
        tokens = attributes.map Attribute.token ++ ending :: rest

/-- The mode after a token, if the token has a place in the mode before it. -/
def turn? : Mode → Token → Option Mode
  | .content, .tagOpen _ => some .tag
  | .content, .text _ => some .content
  | .content, .closeTag _ => some .content
  | .tag, .attr _ _ => some .tag
  | .tag, .tagEnd => some .content
  | .tag, .selfClose => some .content
  | _, _ => none

section

variable {mode mode' : Mode} {token : Token} {rest : List Token}

/-- **Blocks are read off token by token**: the end of the source stands alone and
between tags, and every other token turns the mode for those behind it. -/
theorem shaped_cons_iff :
    Shaped mode (token :: rest) ↔
      mode = .content ∧ token = .eof ∧ rest = [] ∨
        ∃ mode', turn? mode token = some mode' ∧ Shaped mode' rest := by
  constructor
  · intro h
    cases mode with
    | content =>
      cases h with
      | ends => exact .inl ⟨rfl, rfl, rfl⟩
      | text hrest => exact .inr ⟨.content, rfl, hrest⟩
      | closeTag hrest => exact .inr ⟨.content, rfl, hrest⟩
      | tag hending hrest => exact .inr ⟨.tag, rfl, _, _, _, hending, hrest, rfl⟩
    | tag =>
      obtain ⟨attributes, ending, behind, hending, hbehind, heq⟩ := h
      right
      cases attributes with
      | nil =>
        obtain ⟨rfl, rfl⟩ := List.cons.inj heq
        rcases hending with rfl | rfl <;> exact ⟨.content, rfl, hbehind⟩
      | cons a attributes =>
        obtain ⟨rfl, rfl⟩ := List.cons.inj heq
        exact ⟨.tag, rfl, attributes, ending, behind, hending, hbehind, rfl⟩
  · rintro (⟨rfl, rfl, rfl⟩ | ⟨mode', hturn, hrest⟩)
    · exact .ends
    · unfold turn? at hturn
      split at hturn
      next =>
        cases hturn
        obtain ⟨attributes, ending, behind, hending, hbehind, rfl⟩ := hrest
        exact .tag hending hbehind
      next =>
        cases hturn
        exact .text hrest
      next =>
        cases hturn
        exact .closeTag hrest
      next name value =>
        cases hturn
        obtain ⟨attributes, ending, behind, hending, hbehind, rfl⟩ := hrest
        exact ⟨⟨name, value⟩ :: attributes, ending, behind, hending, hbehind, rfl⟩
      next =>
        cases hturn
        exact ⟨[], .tagEnd, rest, .inl rfl, hrest, rfl⟩
      next =>
        cases hturn
        exact ⟨[], .selfClose, rest, .inr rfl, hrest, rfl⟩
      next => cases hturn

theorem not_shaped_nil : ¬Shaped mode [] := by
  intro h
  cases mode with
  | content => cases h
  | tag =>
    obtain ⟨attributes, ending, behind, -, -, heq⟩ := h
    simp at heq

/-- What is spelled turns the mode as the scanner does. -/
theorem Spells.turn?_eq {text after : List Char} (h : Spells mode token mode' text after) :
    turn? mode token = some mode' := by
  cases h <;> rfl

/-- **A source is laid out in blocks.** -/
theorem Laid.shaped {before after : List Char} {placed : List Placed}
    (h : Laid mode before after placed) : Shaped mode (placed.map (·.token)) := by
  induction h with
  | ends => exact .ends
  | passes _ _ ih => exact ih
  | token hspells _ ih => exact shaped_cons_iff.2 (.inr ⟨_, hspells.turn?_eq, ih⟩)

end

/-! ## Readings of blocks -/

/-- Faults of a token that is out of place: one that no tag holds, or no content. -/
inductive Fault.Stray : Fault → Prop
  | insideTag {found : Token} {element : String} : Stray (.insideTag found element)
  | inContent {found : Token} : Stray (.inContent found)

namespace Reading

variable {reading : Reading} {last : Position} {e : ParseError} {placed : List Placed}

/-- The mode that the scanner is in where a reading stands. -/
def mode : Reading → Mode
  | inTag _ _ => .tag
  | _ => .content

theorem mode_close (node : Node) (outer : List Node) : (close node outer).mode = .content := by
  cases outer <;> rfl

/-- A token turns the mode of the reading when it is taken, and when it is rejected as
out of place it has none in that mode. -/
def Turned (reading : Reading) (token : Token) : Except ParseError Reading → Prop
  | .ok reading' => turn? reading.mode token = some reading'.mode
  | .error e => e.fault.Stray → turn? reading.mode token = none

theorem turned_take (next : Position) (found : Placed) (reading : Reading) :
    reading.Turned found.token (reading.take next found) := by
  obtain ⟨token, position⟩ := found
  cases reading with
  | before =>
    -- outside the root element no rejection is for a token out of place
    cases token with
    | text t =>
      simp only [take]
      split
      · rfl
      · rintro ⟨⟩
    | tagOpen name => rfl
    | _ => rintro ⟨⟩
  | inTag node outer =>
    cases token with
    | attr name value =>
      simp only [take]
      split
      · rintro ⟨⟩
      · rfl
    | selfClose => exact congrArg some (mode_close node outer).symm
    | tagEnd => rfl
    | _ => exact fun _ => rfl
  | inContent node outer =>
    cases token with
    | text t => rfl
    | tagOpen name => rfl
    | closeTag name =>
      simp only [take]
      split
      · exact congrArg some (mode_close node outer).symm
      · rintro ⟨⟩
    | _ => exact fun _ => rfl
  | after root =>
    cases token with
    | text t =>
      simp only [take]
      split
      · rfl
      · rintro ⟨⟩
    | _ => rintro ⟨⟩

/-- At the end of blocks no tag is open. -/
theorem not_stray_of_finish (hmode : reading.mode = .content)
    (h : reading.finish last = .error e) : ¬e.fault.Stray := by
  cases reading with
  | inTag => cases hmode
  | after => cases h
  | _ =>
    cases h
    rintro ⟨⟩

/-- **No token of blocks is out of place** for a reading in the mode that they start in. -/
theorem not_stray_of_run (hshaped : Shaped reading.mode (placed.map (·.token)))
    (h : reading.run last placed = .error e) : ¬e.fault.Stray := by
  induction placed generalizing reading with
  | nil => exact absurd hshaped not_shaped_nil
  | cons found rest ih =>
    rw [List.map_cons, shaped_cons_iff] at hshaped
    rw [run] at h
    split at h
    next heof =>
      -- the end has no place in a tag, so it is met between tags
      obtain ⟨hmode, -⟩ | ⟨mode', hturn, -⟩ := hshaped
      · exact not_stray_of_finish hmode h
      · rw [heof] at hturn
        cases hmode : reading.mode <;> rw [hmode] at hturn <;> cases hturn
    next hne =>
      obtain ⟨-, heof, -⟩ | ⟨mode', hturn, hrest⟩ := hshaped
      · exact absurd heof hne
      · have hturned := turned_take ((rest.head?.map (·.position)).getD last) found reading
        cases htake : reading.take ((rest.head?.map (·.position)).getD last) found with
        | ok reading' =>
          rw [htake] at h hturned
          rw [Turned, hturn, Option.some.injEq] at hturned
          exact ih (hturned ▸ hrest) h
        | error e' =>
          rw [htake] at h hturned
          cases h
          intro hstray
          rw [hturned hstray] at hturn
          cases hturn

end Reading

end Markup

end SceneScript
