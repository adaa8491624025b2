import SceneScript.Decimal.Written
import SceneScript.Named
import SceneScript.Text.Quoted
/-!
# Scope — controllers and the variables of a scene

A scope knows the registered controllers by name, the one whose scene is
being shown, the root controller for scenes without one, and the variables
of the scene. Controllers are known by identity alone; what they do is said
elsewhere.
-/

namespace SceneScript

/-- The value of a variable. -/
inductive Variable where
  | text (s : String)
  | number (x : Float)
  | truth (b : Bool)

namespace Variable

/-- The value as text shows it. -/
def shown : Variable → String
  | text s => s
  | number x => Decimal.writeDouble x
  | truth b => if b then "true" else "false"

/-- The value with its kind, as dumps show it. -/
def dumped : Variable → String
  | text s => "Str(" ++ Text.quoted s ++ ")"
  | number x => "Number(" ++ Decimal.markDouble x ++ ")"
  | truth b => "Bool(" ++ (if b then "true" else "false") ++ ")"

/-- The text of a value that is one. -/
def text? : Variable → Option String
  | text s => some s
  | _ => none

/-- The number of a value that is one. -/
def number? : Variable → Option Float
  | number x => some x
  | _ => none

/-- The truth value of a value that is one. -/
def truth? : Variable → Option Bool
  | truth b => some b
  | _ => none

end Variable

/-- Controllers, known by identities of type `κ`, and variables. -/
structure Scope (κ : Type) where
  root : Option κ := none
  controllers : Named κ := []
  /-- The controller in charge, with the name it was found under. -/
  current : Option (String × κ) := none
  values : Named Variable := []

namespace Scope

variable {κ : Type}

/-- Registers a controller, in place of the one of its name. -/
def addController (scope : Scope κ) (name : String) (controller : κ) : Scope κ :=
  { scope with controllers := scope.controllers.put name controller }

/-- The controller registered under a name. -/
def controller? (scope : Scope κ) (name : String) : Option κ :=
  scope.controllers.get? name

/-- Puts the controller of a name in charge; without a name, or under one
that is not registered, none is. -/
def setCurrent (scope : Scope κ) (name : Option String) : Scope κ :=
  { scope with current := name.bind fun name => (scope.controller? name).map (name, ·) }

/-- Gives a variable a value. -/
def setVariable (scope : Scope κ) (name : String) (value : Variable) : Scope κ :=
  { scope with values := scope.values.put name value }

/-- The value of a variable. -/
def valueOf? (scope : Scope κ) (name : String) : Option Variable :=
  scope.values.get? name

/-- Forgets a variable. -/
def removeVariable (scope : Scope κ) (name : String) : Scope κ :=
  { scope with values := scope.values.erase name }

/-- Forgets every variable. -/
def clearVariables (scope : Scope κ) : Scope κ :=
  { scope with values := [] }

/-- The scope as dumps show it. -/
def dumped (scope : Scope κ) : String :=
  let entries := scope.values.map fun entry => Text.quoted entry.1 ++ ": " ++ entry.2.dumped
  "ScopeService \x7b controllers: " ++ Text.quotedList scope.controllers.names ++
    ", current: " ++ Text.quotedOption (scope.current.map (·.1)) ++
    ", has_root: " ++ (if scope.root.isSome then "true" else "false") ++
    ", variables: \x7b" ++ String.intercalate ", " entries ++ "\x7d \x7d"

end Scope

end SceneScript
