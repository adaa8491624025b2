import SceneScript.Decimal.Written
import SceneScript.Scene
/-!
# Outlines — a scene as text

The outline of a scene has a line for the scene and one for each actor, in
painting order. An actor is indented by two spaces for each level below the
scene; its line gives its kind, its name, its bounds, and whether it is
hidden.
-/

namespace SceneScript

/-- Bounds as outlines show them. -/
def Rect.outlined (r : Rect) : String :=
  "(" ++ Decimal.writeSingle r.origin.x ++ ", " ++ Decimal.writeSingle r.origin.y ++ " " ++
    Decimal.writeSingle r.size.x ++ "x" ++ Decimal.writeSingle r.size.y ++ ")"

/-- What the line of an actor says, without its indentation. -/
def Actor.entry (base : Base) (kind : Kind) : String :=
  kind.name ++ (match base.name with
      | some name => " \x22" ++ name ++ "\x22"
      | none => "") ++
    " " ++ base.bounds.outlined ++ (if base.visible then "" else " hidden")

/-- The lines of a list of actors that stand at a depth below the scene. -/
def Actor.outlineEach (depth : Nat) : List Actor → List String
  | [] => []
  | ⟨base, kind, children⟩ :: rest =>
    (String.ofList (List.replicate (2 * depth) ' ') ++ Actor.entry base kind) ::
      (outlineEach (depth + 1) children ++ outlineEach depth rest)

/-- What the line of a scene says. -/
def Scene.entry (scene : Scene) : String :=
  "scene \x22" ++ scene.name ++ "\x22 controller=" ++ scene.controller.getD "-" ++ " " ++
    scene.base.bounds.outlined

/-- The lines of a scene. -/
def Scene.outlineLines (scene : Scene) : List String :=
  scene.entry :: Actor.outlineEach 1 scene.actors

/-- The outline of a scene: its lines, each ended by a line feed. -/
def Scene.outline (scene : Scene) : String :=
  String.join (scene.outlineLines.map (· ++ "\n"))

end SceneScript
