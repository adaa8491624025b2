import SceneScript.Geometry
import SceneScript.Text.Bytes
import SceneScript.Text.Caseless
/-!
# Config — what a host decides

A configuration names the registry root and the index document, says how
document names end, and gives the size of the stage. A name is that of a
document when the suffix of documents ends it; the cut before the suffix is
made at a number of bytes, and where it would fall inside a character the
name ends in something else.
-/

namespace SceneScript

/-- The decisions of a host. -/
structure Config where
  /-- The name of the registry root. -/
  rootNamespace : String := "ROOT"
  /-- The document a stage starts from. -/
  indexDocument : String := "index.xml"
  /-- How the names of documents end; empty when none is one. -/
  documentSuffix : String := ".xml"
  /-- Whether the built-in library is registered and imported at once. -/
  loadDefaultLibraries : Bool := true
  /-- The size of the stage. -/
  viewport : Vec2 := ⟨1280, 720⟩

namespace Config

/-- Whether a name is that of a document: it ends in the suffix, in any case
of ASCII letters, and something stands before. -/
def isDocumentName (config : Config) (name : String) : Bool :=
  let suffix := config.documentSuffix
  suffix ≠ "" && suffix.utf8ByteSize < name.utf8ByteSize &&
    (Text.dropBytes? (name.utf8ByteSize - suffix.utf8ByteSize) name.toList).any fun tail =>
      Text.alike (String.ofList tail) suffix

end Config

end SceneScript
