import SceneScript.Actor.Base
import SceneScript.Actor.Gauge
import SceneScript.Actor.Rows
import SceneScript.Assets
import SceneScript.Text.Quoted
/-!
# Actors — the tree

An actor is a base, a kind with the properties of that kind, and the actors
inside it. Tables, groups and containers are the kinds that take children;
a container takes at most one. The operations of a kind answer `none` on
actors of another.
-/

namespace SceneScript

/-- What an actor is, with what only actors of that kind have. -/
inductive Kind where
  | label (text : String) (scale : Float32) (wrap : Bool)
  | textButton (text : String) (checked : Bool)
  | checkBox (text : String) (checked : Bool)
  | textField (text : String) (hint : Option String) (password : Bool)
  | slider (slider : Slider)
  | progressBar (bar : ProgressBar)
  | table (rows : Rows) (pad : Float32)
  | group
  | container (pad : Float32) (background : Option Color)
  | image (drawable : Drawable)

/-- The word for a kind. -/
def Kind.name : Kind → String
  | label .. => "label"
  | textButton .. => "textButton"
  | checkBox .. => "checkBox"
  | textField .. => "textField"
  | slider .. => "slider"
  | progressBar .. => "progressBar"
  | table .. => "table"
  | group => "group"
  | container .. => "container"
  | image .. => "image"

/-- What a step of `dt` seconds does to the properties of a kind. -/
def Kind.act (dt : Float32) : Kind → Kind
  | progressBar bar => progressBar (bar.act dt)
  | kind => kind

/-- An actor with all that is inside it. -/
structure Actor where
  base : Base := {}
  kind : Kind
  children : List Actor := []

instance : Inhabited Actor := ⟨{ kind := .group }⟩

namespace Actor

/-! ## New actors -/

/-- A text. -/
def label (text : String) (scale : Float32 := 1) (wrap : Bool := false) : Actor :=
  { kind := .label text scale wrap }

/-- A picture of the size of its drawable. -/
def image (drawable : Drawable) : Actor :=
  { base := { bounds := ⟨.zero, drawable.size⟩ }, kind := .image drawable }

/-- A table without children. -/
def table (pad : Float32 := 0) : Actor :=
  { kind := .table {} pad }

/-- A group of the given actors. -/
def group (children : List Actor := []) : Actor :=
  { kind := .group, children }

/-- A container without a child. -/
def container (pad : Float32 := 0) : Actor :=
  { kind := .container pad none }

/-! ## The parts of an actor -/

/-- The name of an actor. -/
def name (actor : Actor) : Option String :=
  actor.base.name

/-- The actor with its base edited. -/
def editBase (actor : Actor) (edit : Base → Base) : Actor :=
  { actor with base := edit actor.base }

/-- A table or a group with one more child; in a table it joins the current
row. -/
def add? (actor child : Actor) : Option Actor :=
  match actor.kind with
  | .table rows pad =>
    some { actor with kind := .table rows.add pad, children := actor.children ++ [child] }
  | .group => some { actor with children := actor.children ++ [child] }
  | _ => none

/-- A container with a child, in place of the one before. -/
def setChild? (actor child : Actor) : Option Actor :=
  match actor.kind with
  | .container .. => some { actor with children := [child] }
  | _ => none

/-- The table with a row break. -/
def breakRow? (actor : Actor) : Option Actor :=
  match actor.kind with
  | .table rows pad => some { actor with kind := .table rows.breakRow pad }
  | _ => none

/-- The text of a label, button, check box or text field. -/
def text? (actor : Actor) : Option String :=
  match actor.kind with
  | .label text _ _ => some text
  | .textButton text _ => some text
  | .checkBox text _ => some text
  | .textField text _ _ => some text
  | _ => none

/-- A label, button or text field with another text. -/
def setText? (actor : Actor) (text : String) : Option Actor :=
  match actor.kind with
  | .label _ scale wrap => some { actor with kind := .label text scale wrap }
  | .textButton _ checked => some { actor with kind := .textButton text checked }
  | .textField _ hint password => some { actor with kind := .textField text hint password }
  | _ => none

/-- The text of an actor that is a label. -/
def labelText? (actor : Actor) : Option String :=
  match actor.kind with
  | .label text _ _ => some text
  | _ => none

/-- What a text field displays: its text, or a star for each character of a
password. -/
def displayed (text : String) (password : Bool) : String :=
  if password then String.ofList (text.toList.map fun _ => '*') else text

/-- Whether a check box is checked. -/
def checked? (actor : Actor) : Option Bool :=
  match actor.kind with
  | .checkBox _ checked => some checked
  | _ => none

/-- A check box, checked or not. -/
def setChecked? (actor : Actor) (checked : Bool) : Option Actor :=
  match actor.kind with
  | .checkBox text _ => some { actor with kind := .checkBox text checked }
  | _ => none

/-- A check box with its mark turned over; any other actor as it is. -/
def toggled (actor : Actor) : Actor :=
  match actor.kind with
  | .checkBox text checked => { actor with kind := .checkBox text (!checked) }
  | _ => actor

/-- Gives an actor a background. A container takes it over; any other actor is
put into a container that takes over its placement. -/
def withBackground (actor : Actor) (color : Color) : Actor :=
  match actor.kind with
  | .container pad _ => { actor with kind := .container pad (some color) }
  | _ =>
    let inner := { actor.base with
      bounds := { actor.base.bounds with origin := .zero }, fillParent := false }
    { base := {
        bounds := actor.base.bounds
        fillParent := actor.base.fillParent
        visible := actor.base.visible }
      kind := .container 0 (some color)
      children := [{ actor with base := inner }] }

/-! ## Time -/

mutual

/-- Runs the actor and all that is inside it for a step of `dt` seconds. -/
def act (dt : Float32) : Actor → Actor
  | ⟨base, kind, children⟩ => ⟨base.act dt, kind.act dt, actEach dt children⟩

/-- Runs every actor of a list. -/
def actEach (dt : Float32) : List Actor → List Actor
  | [] => []
  | actor :: rest => actor.act dt :: actEach dt rest

end

/-! ## Text -/

/-- The actor as dumps show it. -/
def dumped (actor : Actor) : String :=
  "Element \x7b kind: " ++ Text.quoted actor.kind.name ++ ", name: " ++
    Text.quotedOption actor.name ++ ", children: " ++ toString actor.children.length ++ " \x7d"

end Actor

end SceneScript
