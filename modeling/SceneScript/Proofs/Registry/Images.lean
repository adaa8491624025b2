import SceneScript.Proofs.Registry.Presentation
/-!
# Registry — images and where they come from

The built-in element for images looks its source up in some collection of
pictures: the one that came with it. A registry offers a collection when its
built-in elements begin with those that came with it (`Registry.Offers`). What
comes later is not asked, so images become what that collection has, in the state
as it is when they are resolved, and nothing else (`Offers.draws`). Two collections
draw the same exactly where they have the same (`Draws.iff_eq`).
-/

namespace SceneScript

open Markup (Node)

variable {σ : Type}

/-! ## Absent attributes -/

/-- **A built-in attribute that is absent does nothing.** -/
theorem Builtin.apply_of_absent {ctx : Context σ} {actor : Actor} :
    ∀ directive ∈ (attributes : List (AttributeDirective σ)),
      ctx.value? directive.name = none → directive.apply ctx actor = pure actor := by
  have honBase (name : String) (edit : String → Base → Base)
      (h : ctx.value? (onBase name edit : AttributeDirective σ).name = none) :
      (onBase name edit : AttributeDirective σ).apply ctx actor = pure actor := by
    simp only [onBase] at h ⊢
    rw [h]
  have hbackground (h : ctx.value? (background : AttributeDirective σ).name = none) :
      (background : AttributeDirective σ).apply ctx actor = pure actor := by
    simp only [background, Context.color?] at h ⊢
    rw [h]
    rfl
  simp only [attributes, List.forall_mem_cons]
  exact ⟨honBase _ _, honBase _ _, honBase _ _, honBase _ _, honBase _ _, honBase _ _,
    honBase _ _, honBase _ _, honBase _ _, honBase _ _, honBase _ _, honBase _ _,
    hbackground, List.forall_mem_nil _⟩

/-- No built-in attribute is called as the source of an image is. -/
theorem Builtin.name_ne_src :
    ∀ directive ∈ (attributes : List (AttributeDirective σ)), directive.name ≠ "src" := by
  simp [attributes, onBase, background]

theorem Call.runEach_of_idle {ctx : Context σ} {actor : Actor}
    {directives : List (AttributeDirective σ)}
    (h : ∀ directive ∈ directives, directive.apply ctx actor = pure actor) :
    Call.runEach (directives.map (Call.mk ctx)) actor = pure actor := by
  induction directives with
  | nil => rfl
  | cons directive rest ih =>
    obtain ⟨hdirective, hrest⟩ := List.forall_mem_cons.1 h
    rw [List.map_cons, Call.runEach, hdirective]
    exact ih hrest

/-! ## Nodes that are images -/

theorem Actor.image_injective : Function.Injective Actor.image := by
  intro a b h
  have hkind : (image a).kind = (image b).kind := congrArg Actor.kind h
  exact Kind.image.inj hkind

/-- A node that is an image from a source, and nothing else. -/
structure Markup.Node.IsImage (node : Node) (source : String) : Prop where
  tag : Text.alike node.name "image" = true
  attributes : node.attributes = [⟨"src", source⟩]

namespace Markup.Node.IsImage

variable {node : Node} {source : String}

theorem attr?_eq (h : node.IsImage source) : node.attr? "src" = some source := by
  simp [attr?, h.attributes]

/-- The source is all that is found in such a node. -/
theorem value?_eq (h : node.IsImage source) (home name : String)
    (children : List (Offspring σ)) :
    Context.value? { home, node, children } name = if name = "src" then some source else none := by
  have hplain : qualifiedName? "src" = none := by decide
  simp only [Context.value?, attr?, h.attributes, Option.filter_none, Option.map_none,
    Option.none_or, List.find?_singleton, Attribute.qualified?, hplain]
  by_cases hname : name = "src"
  · simp [hname]
  · simp [hname, Ne.symm hname]

/-- The source of an image calls nothing. -/
theorem calls_eq (h : node.IsImage source) (registry : Registry σ) {found : Match σ}
    (hcommon : found.directive.common = true) (children : List (Offspring σ)) :
    registry.calls found { home := found.home, node, children } =
      found.ns.attributes.map (Call.mk { home := found.home, node, children }) := by
  have hplain : qualifiedName? "src" = none := by decide
  simp [Registry.calls, hcommon, Registry.qualifiedCall?, h.attributes, Attribute.qualified?,
    hplain]

end Markup.Node.IsImage

/-! ## Pictures that a registry offers -/

/-- The first built-in element for images. -/
theorem Builtin.find?_image (drawable? : σ → String → Option Drawable)
    (more : List (ElementDirective σ)) :
    (elements drawable? ++ more).find? (fun directive => Text.alike directive.name "image") =
      some { name := "image", build := imageOf drawable? } := by
  simp [elements, plain, Text.alike, Text.folded]

namespace Registry

variable {registry : Registry σ} {place : List String} {drawable? : σ → String → Option Drawable}
  {imports : List String}

/-- A registry whose namespace in some place begins with the built-in elements, as
they come with some pictures, and has built-in attributes alone. -/
def Offers (registry : Registry σ) (place : List String)
    (drawable? : σ → String → Option Drawable) : Prop :=
  ∃ ns more, registry.node? place = some ns ∧ ns.elements = Builtin.elements drawable? ++ more ∧
    ∀ directive ∈ ns.attributes, directive ∈ Builtin.attributes

/-- The namespace in some place has the say about a tag. -/
def Builds (registry : Registry σ) (place imports : List String) (tag : String) : Prop :=
  ∃ found, registry.match? tag imports = some found ∧ segments found.home = place

instance (registry : Registry σ) (place imports : List String) (tag : String) :
    Decidable (registry.Builds place imports tag) :=
  decidable_of_iff ((registry.match? tag imports).any fun found => segments found.home = place) (by
    simp [Builds, Option.any_eq_true])

/-- Images from a source become what some pictures have: they become an actor
exactly when there is a drawable, and those that are nothing else become its
picture, without a change to the state. -/
structure Draws (registry : Registry σ) (imports : List String)
    (drawable? : σ → String → Option Drawable) (source : String) (state : σ) : Prop where
  isSome : ∀ node : Node, Text.alike node.name "image" = true → node.attr? "src" = some source →
    ((registry.resolve imports node).run state).1.isSome = (drawable? state source).isSome
  picture : ∀ node : Node, node.IsImage source →
    (registry.resolve imports node).run state = ((drawable? state source).map Actor.image, state)

/-- What has the say exists. -/
theorem Builds.has {tag : String} (h : registry.Builds place imports tag) :
    registry.Has place := by
  obtain ⟨found, hfound, rfl⟩ := h
  exact Option.isSome_of_eq_some (match?_eq_some_iff.1 hfound).exists_ns

theorem Builds.of_alike {tag tag' : String} (h : registry.Builds place imports tag)
    (halike : Text.alike tag' tag = true) : registry.Builds place imports tag' := by
  rwa [Builds, registry.match?_congr halike]

/-- The directive for images is the one that came with the pictures. -/
theorem Offers.directive_eq (h : registry.Offers place drawable?) {tag : String}
    (htag : Text.alike tag "image" = true) {found : Match σ}
    (hfound : registry.match? tag imports = some found) (hhome : segments found.home = place) :
    found.directive = { name := "image", build := Builtin.imageOf drawable? } ∧
      ∀ directive ∈ found.ns.attributes, directive ∈ Builtin.attributes := by
  rw [registry.match?_congr htag] at hfound
  obtain ⟨ns, more, hns, helements, hattributes⟩ := h
  have hdecides := match?_eq_some_iff.1 hfound
  have hsame : registry.node? place = some found.ns := hhome ▸ hdecides.exists_ns
  obtain rfl : ns = found.ns := Option.some.inj (hns.symm.trans hsame)
  refine ⟨?_, hattributes⟩
  have hfirst := firstNamed_iff.1 hdecides.first
  rw [helements, Builtin.find?_image] at hfirst
  exact (Option.some.inj hfirst).symm

/-- **An image is looked up in the pictures**, in the state as it is then, and
decorated if it is found. -/
theorem Offers.enact_image (h : registry.Offers place drawable?) {node : Node} {source : String}
    (htag : Text.alike node.name "image" = true) (hsrc : node.attr? "src" = some source)
    {found : Match σ} (hfound : registry.match? node.name imports = some found)
    (hhome : segments found.home = place) (children : List (Offspring σ)) (state : σ) :
    (registry.enact imports node children).run state =
      match drawable? state source with
      | none => (none, state)
      | some drawable => (some <$> Call.runEach
          (registry.calls found { home := found.home, node, children })
          (Actor.image drawable)).run state := by
  have hvalue : Context.value? { home := found.home, node, children } "src" = some source := by
    simp [Context.value?, hsrc]
  simp only [enact, hfound, (h.directive_eq htag hfound hhome).1, Builtin.imageOf, hvalue,
    bind_assoc, pure_bind, Option.bind_some, StateT.run_bind, StateT.run_get]
  cases drawable? state source <;> rfl

theorem Offers.isSome_resolve (h : registry.Offers place drawable?) {node : Node}
    {source : String} (htag : Text.alike node.name "image" = true)
    (hsrc : node.attr? "src" = some source) (hbuilds : registry.Builds place imports node.name)
    (state : σ) : ((registry.resolve imports node).run state).1.isSome =
      (drawable? state source).isSome := by
  obtain ⟨found, hfound, hhome⟩ := hbuilds
  have henact := fun children => h.enact_image htag hsrc hfound hhome children state
  cases node
  rw [resolve, henact]
  cases drawable? state source <;> rfl

theorem Offers.resolve_image (h : registry.Offers place drawable?) {node : Node}
    {source : String} (himage : node.IsImage source)
    (hbuilds : registry.Builds place imports node.name) (state : σ) :
    (registry.resolve imports node).run state =
      ((drawable? state source).map Actor.image, state) := by
  obtain ⟨found, hfound, hhome⟩ := hbuilds
  obtain ⟨hdirective, hattributes⟩ := h.directive_eq himage.tag hfound hhome
  have hidle (children : List (Offspring σ)) (actor : Actor) :
      Call.runEach (registry.calls found { home := found.home, node, children }) actor =
        pure actor := by
    rw [himage.calls_eq registry (by rw [hdirective])]
    refine Call.runEach_of_idle fun directive hmem =>
      Builtin.apply_of_absent directive (hattributes directive hmem) ?_
    exact (himage.value?_eq _ _ _).trans
      (if_neg (Builtin.name_ne_src directive (hattributes directive hmem)))
  have henact := fun children =>
    h.enact_image himage.tag himage.attr?_eq hfound hhome children state
  cases node
  simp only [resolve, henact, hidle]
  cases drawable? state source <;> rfl

/-- **Images become what the registry offers.** -/
theorem Offers.draws (h : registry.Offers place drawable?)
    (hbuilds : registry.Builds place imports "image") (source : String) (state : σ) :
    registry.Draws imports drawable? source state where
  isSome _ htag hsrc := h.isSome_resolve htag hsrc (hbuilds.of_alike htag) state
  picture _ himage := h.resolve_image himage (hbuilds.of_alike himage.tag) state

/-- **Two collections draw the same where they have the same**, and nowhere else. -/
theorem Draws.iff_eq {source : String} {state : σ}
    (h : registry.Draws imports drawable? source state) (other : σ → String → Option Drawable) :
    registry.Draws imports other source state ↔ drawable? state source = other state source := by
  refine ⟨fun hother => ?_, fun heq => ⟨heq ▸ h.isSome, heq ▸ h.picture⟩⟩
  have himage : Node.IsImage { name := "image", attributes := [⟨"src", source⟩] } source :=
    ⟨Text.alike_refl _, rfl⟩
  have hsame := (h.picture _ himage).symm.trans (hother.picture _ himage)
  exact Option.map_injective Actor.image_injective (Prod.mk.inj hsame).1

/-! ## Offers that last -/

/-- Elements that come later are not asked. -/
theorem Offers.extend {registry' : Registry σ} {other : σ → String → Option Drawable}
    (h : registry.Offers place drawable?) (hextended : registry'.node? place =
      some (((registry.node? place).getD {}).extend (Builtin.elements other) Builtin.attributes)) :
    registry'.Offers place drawable? := by
  obtain ⟨ns, more, hns, helements, hattributes⟩ := h
  refine ⟨_, more ++ Builtin.elements other, hextended, ?_, ?_⟩
  · simp [hns, Namespace.extend, helements]
  · simp only [hns, Option.getD_some]
    exact List.forall_mem_append.2 ⟨hattributes, fun _ hmem => hmem⟩

/-- What comes to an empty place comes first. -/
theorem offers_of_extended {registry' : Registry σ} (hnone : ¬ registry.Has place)
    (hextended : registry'.node? place = some (((registry.node? place).getD {}).extend
      (Builtin.elements drawable?) Builtin.attributes)) :
    registry'.Offers place drawable? := by
  have hempty : registry.node? place = none := Option.not_isSome_iff_eq_none.1 hnone
  refine ⟨_, [], hextended, ?_, ?_⟩ <;> simp [hempty, Namespace.extend]

end Registry

end SceneScript
