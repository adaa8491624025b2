import SceneScript.Registry.Directive
/-!
# Built-in library — the attributes of the built-in namespace

Every element of the built-in namespace takes these attributes. Each sets one
thing about the actor, and leaves it alone when the attribute is absent or
its value is malformed. The order counts where two of them touch the same
thing: a fade in starts from the opacity of the colour before it, and a
background takes over the placement that the others gave.
-/

namespace SceneScript
namespace Builtin

variable {σ : Type}

/-- A directive that edits the base of the actor by its own attribute. -/
def onBase (name : String) (edit : String → Base → Base) : AttributeDirective σ :=
  { name
    apply := fun ctx actor => pure (match ctx.value? name with
      | some value => actor.editBase (edit value)
      | none => actor) }

/-- An edit by a finite number. -/
def byNumber (edit : Float32 → Base → Base) (value : String) (base : Base) : Base :=
  ((Decimal.readSingle? (Text.trim value)).map fun x => edit x base).getD base

/-- An edit by a truth value. -/
def byTruth (edit : Bool → Base → Base) (value : String) (base : Base) : Base :=
  ((Markup.readBool? value).map fun b => edit b base).getD base

/-- Moves the left edge. -/
def setX (x : Float32) (base : Base) : Base :=
  { base with bounds := { base.bounds with origin := { base.bounds.origin with x } } }

/-- Moves the top edge. -/
def setY (y : Float32) (base : Base) : Base :=
  { base with bounds := { base.bounds with origin := { base.bounds.origin with y } } }

/-- Sets the width, which is not negative. -/
def setWidth (width : Float32) (base : Base) : Base :=
  { base with
    bounds := { base.bounds with size := { base.bounds.size with x := Scalar.greater width 0 } } }

/-- Sets the height, which is not negative. -/
def setHeight (height : Float32) (base : Base) : Base :=
  { base with
    bounds := { base.bounds with size := { base.bounds.size with y := Scalar.greater height 0 } } }

/-- Makes the actor transparent and fades it to the opacity it had. -/
def fadeIn (seconds : Float32) (base : Base) : Base :=
  { base with color := base.color.withAlpha 0 }.fadeTo base.color.alpha seconds

/-- The directive for a background. -/
def background : AttributeDirective σ :=
  { name := "background"
    apply := fun ctx actor => pure (match ctx.color? "background" with
      | some color => actor.withBackground color
      | none => actor) }

/-- The attribute directives of the built-in namespace, in order. -/
def attributes : List (AttributeDirective σ) :=
  [ onBase "name" fun value base => { base with name := some value },
    onBase "x" (byNumber setX),
    onBase "y" (byNumber setY),
    onBase "width" (byNumber setWidth),
    onBase "height" (byNumber setHeight),
    onBase "visible" (byTruth fun visible base => { base with visible }),
    onBase "color" fun value base =>
      ((Markup.readColor? value).map fun bytes =>
        { base with color := Color.ofBytes bytes }).getD base,
    onBase "fillParent" (byTruth fun fillParent base => { base with fillParent }),
    onBase "onClick" fun value base => base.bind "click" value,
    onBase "onChange" fun value base => base.bind "change" value,
    onBase "fadeIn" (byNumber fadeIn),
    onBase "fadeOut" (byNumber fun seconds base => base.fadeTo 0 seconds),
    background ]

end Builtin
end SceneScript
