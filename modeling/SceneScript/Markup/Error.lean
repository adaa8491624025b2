import SceneScript.Markup.Token
/-!
# Markup — what can be wrong with a document

A fault is the cause of a rejection; an error adds the place and, where it
is known, the document. The wording of each fault stands in `Fault.message`
alone.
-/

namespace SceneScript
namespace Markup

/-- The passages of a source that run up to a closing mark of their own. -/
inductive Passage where
  | comment
  | instruction
  | cdata
  | declaration
deriving DecidableEq, Repr

/-- A passage by its name. -/
def Passage.name : Passage → String
  | .comment => "comment"
  | .instruction => "processing instruction"
  | .cdata => "CDATA section"
  | .declaration => "declaration"

/-- Why a source is not a document. -/
inductive Fault where
  /-- A passage without its closing mark. -/
  | unterminatedPassage (passage : Passage)
  /-- Something else where a name is due. -/
  | expectedName (found : Option Char)
  /-- A closing tag that goes on after its name. -/
  | unfinishedCloseTag (name : String)
  /-- The source ends inside a tag. -/
  | unterminatedTag
  /-- A slash inside a tag that does not end it. -/
  | slashAlone
  /-- An attribute without a value. -/
  | expectedEquals (name : String)
  /-- A character that starts nothing inside a tag. -/
  | strayCharacter (c : Char)
  /-- A value that starts with no quote. -/
  | unquotedValue
  /-- A value without its closing quote. -/
  | unterminatedValue
  /-- A tag opening inside a value. -/
  | angleInValue
  /-- An ampersand without a semicolon. -/
  | unterminatedReference
  /-- A reference that names no character. -/
  | unknownReference (name : String)
  /-- Text before or after the root element. -/
  | textOutsideRoot
  /-- No root element. -/
  | expectedRoot
  /-- A token after the root element. -/
  | afterRoot (found : Token)
  /-- A token that no tag holds. -/
  | insideTag (found : Token) (element : String)
  /-- A token that no content holds. -/
  | inContent (found : Token)
  /-- An attribute that its tag already has. -/
  | repeatedAttribute (name element : String)
  /-- A closing tag for another element than the open one. -/
  | mismatchedCloseTag (name element : String)
  /-- An element that the end of the source leaves open. -/
  | unclosedElement (name : String)
deriving DecidableEq, Repr

/-- The wording of a fault. -/
def Fault.message : Fault → String
  | .unterminatedPassage passage => "unterminated " ++ passage.name
  | .expectedName (some c) => "expected a name, got " ++ Text.quotedChar c
  | .expectedName none => "expected a name, got end of input"
  | .unfinishedCloseTag name => "expected '>' to close </" ++ name
  | .unterminatedTag => "unterminated tag"
  | .slashAlone => "expected '/>'"
  | .expectedEquals name => "expected '=' after attribute " ++ Text.quoted name
  | .strayCharacter c => "unexpected character " ++ Text.quotedChar c ++ " inside tag"
  | .unquotedValue => "attribute value must be quoted"
  | .unterminatedValue => "unterminated attribute value"
  | .angleInValue => "'<' is not allowed in attribute values"
  | .unterminatedReference => "unterminated entity reference"
  | .unknownReference name => "unknown entity &" ++ name ++ ";"
  | .textOutsideRoot => "text is not allowed outside the root element"
  | .expectedRoot => "expected a root element"
  | .afterRoot found => "unexpected " ++ found.shown ++ " after the root element"
  | .insideTag found element => "unexpected " ++ found.shown ++ " inside <" ++ element ++ ">"
  | .inContent found => "unexpected " ++ found.shown ++ " in element content"
  | .repeatedAttribute name element =>
    "duplicate attribute " ++ Text.quoted name ++ " on <" ++ element ++ ">"
  | .mismatchedCloseTag name element =>
    "mismatched closing tag </" ++ name ++ "> for <" ++ element ++ ">"
  | .unclosedElement name => "unclosed element <" ++ name ++ ">"

/-- A fault at its place. -/
structure ParseError where
  fault : Fault
  position : Position
  /-- The document that was read, if it has a name. -/
  document : Option String := none
deriving DecidableEq, Repr

namespace ParseError

/-- The same error, of a named document. -/
def inDocument (e : ParseError) (document : String) : ParseError :=
  { e with document := some document }

/-- Document, line, column and wording. -/
def message (e : ParseError) : String :=
  e.document.getD "<markup>" ++ ":" ++ toString e.position.line ++ ":" ++
    toString e.position.col ++ ": " ++ e.fault.message

end ParseError

end Markup
end SceneScript
