import SceneScript.Assets
import SceneScript.Markup.Error
import SceneScript.Named
/-!
# Sources — where documents come from

A source answers the path of a document with its text. The one that comes
with the library holds its documents in memory. Loading a document can fail
for four causes, each with a wording of its own.

Files are left out: the source that reads documents from a directory, and with
it a fifth cause that no other source has, a document that is there and cannot
be read ("failed to read scene document" and its path). An engine hands every
cause on as it comes from the source, whichever it is.
-/

namespace SceneScript

/-- Why a document or a stage is not loaded. That a file cannot be read is left
out, as files are. -/
inductive LoadError where
  /-- There is no document at the path. -/
  | notFound (path : String)
  /-- The document is malformed. -/
  | parse (error : Markup.ParseError)
  /-- The document has no scene to start with. -/
  | noScenes (path : String)
  /-- The asset service refused. -/
  | asset (error : AssetError)

/-- The wording of a failure to load. -/
def LoadError.message : LoadError → String
  | .notFound path => "scene document not found: " ++ path
  | .parse error => error.message
  | .noScenes path => "scene document " ++ path ++ " declares no scenes"
  | .asset error => error.message

/-- The text of each document, or why there is none. -/
abbrev DocumentSource := String → Except LoadError String

/-- Documents in memory, by path. -/
abbrev MemorySource := Named String

/-- The documents in memory as a source. -/
def MemorySource.load (documents : MemorySource) : DocumentSource := fun path =>
  match documents.get? path with
  | some text => .ok text
  | none => .error (.notFound path)

end SceneScript
