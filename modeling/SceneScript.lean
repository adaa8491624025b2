import SceneScript.Engine.Theatre
import SceneScript.Outline
import SceneScript.Proofs.Actor.Backgrounds
import SceneScript.Proofs.Actor.Bindings
import SceneScript.Proofs.Actor.Editing
import SceneScript.Proofs.Actor.Fading
import SceneScript.Proofs.Actor.Outlines
import SceneScript.Proofs.Actor.Painted
import SceneScript.Proofs.Actor.Rows
import SceneScript.Proofs.Engine.Charge
import SceneScript.Proofs.Engine.Delivery
import SceneScript.Proofs.Engine.Disposal
import SceneScript.Proofs.Engine.Imports
import SceneScript.Proofs.Engine.Isolation
import SceneScript.Proofs.Engine.Layout
import SceneScript.Proofs.Engine.Lifecycle
import SceneScript.Proofs.Engine.Loading
import SceneScript.Proofs.Engine.Opening
import SceneScript.Proofs.Engine.Phases
import SceneScript.Proofs.Engine.Pictures
import SceneScript.Proofs.Engine.Presentation
import SceneScript.Proofs.Engine.Registration
import SceneScript.Proofs.Engine.Requests
import SceneScript.Proofs.Engine.Start
import SceneScript.Proofs.Markup.Blocks
import SceneScript.Proofs.Markup.Descent
import SceneScript.Proofs.Markup.Grammar
import SceneScript.Proofs.Markup.Places
import SceneScript.Proofs.Markup.Preorder
import SceneScript.Proofs.Markup.References
import SceneScript.Proofs.Markup.Rejection
import SceneScript.Proofs.Markup.Seams
import SceneScript.Proofs.Markup.Spelling
import SceneScript.Proofs.Registry.Explicit
import SceneScript.Proofs.Text.DocumentNames
