import SceneScript.Markup.Node
import SceneScript.Markup.Scan
/-!
# Markup — from tokens to the tree

Reading a document is a walk over its tokens with the open elements kept on
a stack, innermost first. A `Reading` is what the walk knows between two
tokens; `take` carries it over one token and `finish` closes it at the end.
The walk sees one token at a time, so a fault is found at the first token
that fits nowhere.
-/

namespace SceneScript
namespace Markup

/-- What has been read of a document. -/
inductive Reading where
  /-- Nothing but blank text. -/
  | before
  /-- Inside the tag of the innermost open element. -/
  | inTag (node : Node) (outer : List Node)
  /-- In the content of the innermost open element. -/
  | inContent (node : Node) (outer : List Node)
  /-- The whole root element. -/
  | after (root : Node)

/-- The element with one more part of text. Blanks at the ends of the part do
not count, a part of blanks is no part, and parts are joined by a space. -/
def Node.addText (node : Node) (part : String) : Node :=
  if Text.isBlankText part then node
  else
    let part := Text.trim part
    { node with text := some (match node.text with
        | some text => text ++ " " ++ part
        | none => part) }

/-- The element with one more child. -/
def Node.addChild (node child : Node) : Node :=
  { node with children := node.children ++ [child] }

/-- The element with one more attribute. -/
def Node.addAttr (node : Node) (name value : String) : Node :=
  { node with attributes := node.attributes ++ [⟨name, value⟩] }

namespace Reading

/-- The innermost element is complete: it joins the element around it, or is
the root. -/
def close (node : Node) : List Node → Reading
  | [] => .after node
  | parent :: outer => .inContent (parent.addChild node) outer

/-- Carries the reading over one token other than the end. A repeated
attribute is placed at the token that follows it, `next`. -/
def take (next : Position) (token : Placed) : Reading → Except ParseError Reading
  | before =>
    match token.token with
    | .text t =>
      if Text.isBlankText t then .ok before
      else .error { fault := .textOutsideRoot, position := token.position }
    | .tagOpen name => .ok (.inTag { name, position := token.position } [])
    | _ => .error { fault := .expectedRoot, position := token.position }
  | inTag node outer =>
    match token.token with
    | .attr name value =>
      if node.hasAttr name then
        .error { fault := .repeatedAttribute name node.name, position := next }
      else .ok (.inTag (node.addAttr name value) outer)
    | .selfClose => .ok (close node outer)
    | .tagEnd => .ok (.inContent node outer)
    | found => .error { fault := .insideTag found node.name, position := token.position }
  | inContent node outer =>
    match token.token with
    | .text t => .ok (.inContent (node.addText t) outer)
    | .tagOpen name => .ok (.inTag { name, position := token.position } (node :: outer))
    | .closeTag name =>
      if name = node.name then .ok (close node outer)
      else .error { fault := .mismatchedCloseTag name node.name, position := token.position }
    | found => .error { fault := .inContent found, position := token.position }
  | after root =>
    match token.token with
    | .text t =>
      if Text.isBlankText t then .ok (after root)
      else .error { fault := .textOutsideRoot, position := token.position }
    | found => .error { fault := .afterRoot found, position := token.position }

/-- The document read when the tokens end at a place. -/
def finish (last : Position) : Reading → Except ParseError Node
  | before => .error { fault := .expectedRoot, position := last }
  | inTag node _ => .error { fault := .insideTag .eof node.name, position := last }
  | inContent node _ =>
    .error { fault := .unclosedElement node.name, position := node.position }
  | after root => .ok root

/-- Reads tokens up to the end token or the last one. What follows the end
token is not looked at; `last` is the place of the last token of all. -/
def run (last : Position) : Reading → List Placed → Except ParseError Node
  | reading, [] => reading.finish last
  | reading, token :: rest =>
    if token.token = .eof then reading.finish token.position
    else
      match reading.take ((rest.head?.map (·.position)).getD last) token with
      | .ok reading => run last reading rest
      | .error e => .error e

end Reading

/-- The root element that a list of tokens describes. -/
def parseTokens (tokens : List Placed) : Except ParseError Node :=
  Reading.run ((tokens.getLast?.map (·.position)).getD .start) .before tokens

/-- The root element of a source. -/
def parse (source : String) : Except ParseError Node :=
  (tokenize source).bind parseTokens

end Markup
end SceneScript
