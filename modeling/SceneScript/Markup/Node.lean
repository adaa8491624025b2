import SceneScript.Markup.Position
/-!
# Markup — the tree of a document

A node has a name, attributes in the order they were written, its text, its
children in order, and the place of its opening tag. Looking up an attribute
finds the first one of the name.
-/

namespace SceneScript
namespace Markup

/-- A name with a value. -/
structure Attribute where
  name : String
  value : String
deriving DecidableEq, Repr

/-- The parts of a name like `path:local`: what stands before the first colon
and what after it, if there is something on both sides. -/
def qualifiedName? (name : String) : Option (String × String) :=
  match name.toList.span (· ≠ ':') with
  | (path@(_ :: _), ':' :: part@(_ :: _)) => some (String.ofList path, String.ofList part)
  | _ => none

/-- The namespace path and the local name of a qualified attribute. -/
def Attribute.qualified? (a : Attribute) : Option (String × String) :=
  qualifiedName? a.name

/-- An element of a document. -/
structure Node where
  name : String
  attributes : List Attribute := []
  /-- The text of the element itself, blanks at the ends of its parts taken
  away; `none` when it has none. -/
  text : Option String := none
  children : List Node := []
  position : Position := ⟨0, 0⟩
deriving Repr, Inhabited

namespace Node

/-- The value of the first attribute of a name. -/
def attr? (node : Node) (name : String) : Option String :=
  (node.attributes.find? (·.name == name)).map (·.value)

/-- Whether there is an attribute of a name. -/
def hasAttr (node : Node) (name : String) : Bool :=
  (node.attr? name).isSome

/-- The children of a name, in order. -/
def childrenNamed (node : Node) (name : String) : List Node :=
  node.children.filter (·.name == name)

/-- The node that a path of child indices leads to. -/
def descend? (node : Node) : List Nat → Option Node
  | [] => some node
  | i :: path => node.children[i]?.bind (descend? · path)

end Node

end Markup
end SceneScript
