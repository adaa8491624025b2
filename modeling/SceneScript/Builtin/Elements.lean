import SceneScript.Registry.Resolve
/-!
# Built-in library — the elements of the built-in namespace

Each built-in actor has an element of its own name; `button` is another word
for `textButton`. Attributes set the properties of the actor, and what they
leave out takes its usual value. Pictures are looked up by the service of
the host, as the state of the directives has it.
-/

namespace SceneScript
namespace Builtin

variable {σ : Type}

/-- What an element says: its `text` attribute, else its own text. -/
def textOf (ctx : Context σ) : String :=
  (ctx.value? "text").getD (ctx.node.text.getD "")

/-- An element directive that always builds, and from its context alone. -/
def plain (name : String) (build : Context σ → Actor) : ElementDirective σ :=
  { name, build := fun ctx => pure (some (build ctx)) }

/-- A text, with its size and whether it wraps. -/
def labelOf (ctx : Context σ) : Actor :=
  .label (textOf ctx) ((ctx.number? "fontScale").getD 1) ((ctx.truth? "wrap").getD false)

/-- A button with a text. -/
def textButtonOf (ctx : Context σ) : Actor :=
  { kind := .textButton (textOf ctx) ((ctx.truth? "checked").getD false) }

/-- A box to check, with a text. -/
def checkBoxOf (ctx : Context σ) : Actor :=
  { kind := .checkBox (textOf ctx) ((ctx.truth? "checked").getD false) }

/-- A line to type into. -/
def textFieldOf (ctx : Context σ) : Actor :=
  let password := (ctx.truth? "password").getD false
  { kind := .textField (textOf ctx) (ctx.value? "messageText") password }

/-- A slider; it starts at its `value`, or else asks for its `min`. -/
def sliderOf (ctx : Context σ) : Actor :=
  let low := (ctx.number? "min").getD 0
  let slider := Slider.ofBounds low ((ctx.number? "max").getD 100) ((ctx.number? "step").getD 1)
  let slider := { slider with vertical := (ctx.truth? "vertical").getD false }
  { kind := .slider (slider.setValue ((ctx.number? "value").getD low)) }

/-- A progress bar; it starts at its `value`, or else asks for its `min`. -/
def progressBarOf (ctx : Context σ) : Actor :=
  let low := (ctx.number? "min").getD 0
  let bar := ProgressBar.ofBounds low ((ctx.number? "max").getD 100)
  let bar := bar.withSpeed ((ctx.number? "animateSpeed").getD 0)
  { kind := .progressBar (bar.startAt ((ctx.number? "value").getD low)) }

/-- Puts the children of a table into it: `row` breaks the row, in any case of
ASCII letters, and every other node is resolved. -/
def fillTable : List (Offspring σ) → Actor → StateM σ Actor
  | [], table => pure table
  | child :: rest, table =>
    if Text.alike child.node.name "row" then fillTable rest (table.breakRow?.getD table)
    else do
      let actor ← child.resolve
      fillTable rest ((actor.bind table.add?).getD table)

/-- A table of the children. -/
def tableOf (ctx : Context σ) : StateM σ (Option Actor) := do
  let table ← fillTable ctx.children (.table ((ctx.number? "pad").getD 0))
  pure (some table)

/-- A group of the children. -/
def groupOf (ctx : Context σ) : StateM σ (Option Actor) := do
  let actors ← Offspring.resolveEach ctx.children
  pure (some (.group actors))

/-- A container of the first child that becomes an actor. -/
def containerOf (ctx : Context σ) : StateM σ (Option Actor) := do
  let container := Actor.container ((ctx.number? "pad").getD 0)
  let child ← Offspring.resolveFirst ctx.children
  pure (some ((child.bind container.setChild?).getD container))

/-- A picture of the drawable that `src` names; without one there is none. -/
def imageOf (drawable? : σ → String → Option Drawable) (ctx : Context σ) :
    StateM σ (Option Actor) := do
  let state ← get
  pure (((ctx.value? "src").bind (drawable? state)).map Actor.image)

/-- The element directives of the built-in namespace, in order. -/
def elements (drawable? : σ → String → Option Drawable) : List (ElementDirective σ) :=
  [ plain "label" labelOf,
    plain "textButton" textButtonOf,
    plain "button" textButtonOf,
    { name := "table", build := tableOf },
    { name := "group", build := groupOf },
    { name := "container", build := containerOf },
    { name := "image", build := imageOf drawable? },
    plain "checkBox" checkBoxOf,
    plain "textField" textFieldOf,
    plain "slider" sliderOf,
    plain "progressBar" progressBarOf ]

end Builtin
end SceneScript
