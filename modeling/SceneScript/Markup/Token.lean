import SceneScript.Markup.Position
import SceneScript.Text.Quoted
/-!
# Markup — tokens

A source is a sequence of tokens: the opening of a tag, its attributes, one
of the two ways a tag ends, closing tags, and text. The end of the source is
a token of its own. Error messages show the token that was found instead of
the one that was due.
-/

namespace SceneScript
namespace Markup

/-- A token of a source. -/
inductive Token where
  /-- `<name`. -/
  | tagOpen (name : String)
  /-- `name="value"`, the value with its references replaced. -/
  | attr (name value : String)
  /-- `>`. -/
  | tagEnd
  /-- `/>`. -/
  | selfClose
  /-- `</name>`. -/
  | closeTag (name : String)
  /-- Character data, with its references replaced unless it is literal. -/
  | text (content : String)
  /-- The end of the source. -/
  | eof
deriving DecidableEq, Repr

/-- A token as messages show it. -/
def Token.shown : Token → String
  | .tagOpen name => "TagOpen(" ++ Text.quoted name ++ ")"
  | .attr name value =>
    "Attr \x7b name: " ++ Text.quoted name ++ ", value: " ++ Text.quoted value ++ " \x7d"
  | .tagEnd => "TagEnd"
  | .selfClose => "SelfClose"
  | .closeTag name => "CloseTag(" ++ Text.quoted name ++ ")"
  | .text content => "Text(" ++ Text.quoted content ++ ")"
  | .eof => "Eof"

/-- A token and the place where its text starts. -/
structure Placed where
  token : Token
  position : Position
deriving DecidableEq, Repr

end Markup
end SceneScript
