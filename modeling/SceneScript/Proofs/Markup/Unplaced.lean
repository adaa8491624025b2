import SceneScript.Markup.Parse
/-!
# Markup — trees without their places

What a document says does not depend on where it says it. `unplaced` forgets
the positions of a tree, and reading tokens commutes with it: tokens at other
places are read as the same tree, or are refused as well.
-/

namespace SceneScript

namespace Markup

mutual

/-- The tree with its positions forgotten. -/
def Node.unplaced : Node → Node
  | ⟨name, attributes, text, children, _⟩ => ⟨name, attributes, text, unplacedEach children, ⟨0, 0⟩⟩

/-- Trees with their positions forgotten. -/
def Node.unplacedEach : List Node → List Node
  | [] => []
  | node :: rest => node.unplaced :: unplacedEach rest

end

/-- The token at no place in particular. -/
def Token.unplaced (token : Token) : Placed :=
  ⟨token, ⟨0, 0⟩⟩

/-- The reading with its positions forgotten. -/
def Reading.unplaced : Reading → Reading
  | before => before
  | inTag node outer => inTag node.unplaced (outer.map Node.unplaced)
  | inContent node outer => inContent node.unplaced (outer.map Node.unplaced)
  | after root => after root.unplaced

namespace Node

theorem unplacedEach_eq_map (nodes : List Node) : unplacedEach nodes = nodes.map unplaced := by
  induction nodes with
  | nil => rfl
  | cons node rest ih => rw [unplacedEach, ih, List.map_cons]

theorem unplaced_eq (node : Node) :
    node.unplaced = { node with children := node.children.map unplaced, position := ⟨0, 0⟩ } := by
  obtain ⟨name, attributes, text, children, position⟩ := node
  rw [unplaced, unplacedEach_eq_map]

@[simp] theorem name_unplaced (node : Node) : node.unplaced.name = node.name := by
  rw [unplaced_eq]

@[simp] theorem hasAttr_unplaced (node : Node) (name : String) :
    node.unplaced.hasAttr name = node.hasAttr name := by
  rw [unplaced_eq]
  rfl

@[simp] theorem unplaced_addAttr (node : Node) (name value : String) :
    (node.addAttr name value).unplaced = node.unplaced.addAttr name value := by
  rw [unplaced_eq, unplaced_eq]
  rfl

@[simp] theorem unplaced_addChild (node child : Node) :
    (node.addChild child).unplaced = node.unplaced.addChild child.unplaced := by
  rw [unplaced_eq, unplaced_eq node]
  simp [addChild]

@[simp] theorem unplaced_addText (node : Node) (part : String) :
    (node.addText part).unplaced = node.unplaced.addText part := by
  unfold addText
  split
  next => rfl
  next =>
    rw [unplaced_eq, unplaced_eq]

end Node

namespace Reading

@[simp] theorem unplaced_close (node : Node) (outer : List Node) :
    (close node outer).unplaced = close node.unplaced (outer.map Node.unplaced) := by
  cases outer with
  | nil => rfl
  | cons parent outer => simp [close, unplaced]

/-- **A token is read alike at every place.** -/
theorem take_unplaced (next next' : Position) (token : Placed) (reading : Reading) :
    (reading.unplaced.take next' token.token.unplaced).toOption =
      (reading.take next token).toOption.map unplaced := by
  obtain ⟨token, p⟩ := token
  cases reading with
  | before =>
    cases token with
    | text t =>
      simp only [take, unplaced, Token.unplaced]
      split <;> rfl
    | _ => rfl
  | inTag node outer =>
    cases token with
    | attr name value =>
      simp only [take, unplaced, Token.unplaced, Node.hasAttr_unplaced]
      split
      · rfl
      · simp [Except.toOption, unplaced]
    | selfClose => exact congrArg some (unplaced_close node outer).symm
    | _ => rfl
  | inContent node outer =>
    cases token with
    | closeTag name =>
      simp only [take, unplaced, Token.unplaced, Node.name_unplaced]
      split
      · simp [Except.toOption]
      · rfl
    | text t =>
      have htext := (Node.unplaced_addText node t).symm
      exact congrArg (fun node => some (inContent node (outer.map Node.unplaced))) htext
    | _ => rfl
  | after root =>
    cases token with
    | text t =>
      simp only [take, unplaced, Token.unplaced]
      split <;> rfl
    | _ => rfl

/-- **And so are all tokens.** -/
theorem run_unplaced (last last' : Position) (tokens : List Placed) (reading : Reading) :
    (run last' reading.unplaced (tokens.map (·.token.unplaced))).toOption =
      (run last reading tokens).toOption.map Node.unplaced := by
  have hfinish (p p' : Position) (reading : Reading) :
      (reading.unplaced.finish p').toOption = (reading.finish p).toOption.map Node.unplaced := by
    cases reading <;> rfl
  induction tokens generalizing reading with
  | nil => exact hfinish last last' reading
  | cons token rest ih =>
    rw [List.map_cons, run, run]
    by_cases heof : token.token = .eof
    · rw [if_pos (show token.token.unplaced.token = .eof from heof), if_pos heof]
      exact hfinish ..
    · rw [if_neg (show token.token.unplaced.token ≠ .eof from heof), if_neg heof]
      have htake := take_unplaced ((rest.head?.map (·.position)).getD last)
        (((rest.map (·.token.unplaced)).head?.map (·.position)).getD last') token reading
      revert htake
      generalize reading.unplaced.take _ token.token.unplaced = taken'
      generalize reading.take _ token = taken
      intro htake
      -- the two readings go on together or stop together
      cases taken with
      | error e =>
        cases taken' with
        | error e' => rfl
        | ok reading'' => cases htake
      | ok reading' =>
        cases taken' with
        | error e' => cases htake
        | ok reading'' =>
          cases htake
          exact ih reading'

end Reading

end Markup

end SceneScript
