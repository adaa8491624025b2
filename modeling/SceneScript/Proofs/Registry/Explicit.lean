import SceneScript.Proofs.Registry.Conduct
/-!
# Registry — attributes that are spelled out

A qualified attribute of a node asks for a directive by the path of its
namespace and its name. Resolving the node runs that directive in any case,
but in one of two ways. Called by the attribute, it sees the attribute's value
however path and name are spelled. Run as one of the common attributes of the
namespace that built the node, it is called by nobody, and sees what is
written under its own name: plain, or behind the import exactly as it stands
in the list of imports.

So an attribute is heard unless it asks for a directive that the node gets
anyway, and spells it otherwise (`heard_iff`).
-/

namespace SceneScript

open Markup (Node Attribute)

variable {σ : Type}

/-- Something is written on a node under a name: plain, or qualified by a path
of this very spelling. -/
def Markup.Node.Spells (node : Node) (home name : String) : Prop :=
  (node.attr? name).isSome ∨ ∃ a ∈ node.attributes, a.qualified? = some (home, name)

/-- A directive that nobody called sees what is spelled out under a name. -/
theorem Context.isSome_value?_iff {ctx : Context σ} (h : ctx.trigger = none) {name : String} :
    (ctx.value? name).isSome ↔ ctx.node.Spells ctx.home name := by
  unfold Context.value? Markup.Node.Spells
  simp [h, List.find?_isSome]

/-- Among some calls is one of a directive of the namespace at a path. -/
def Applied (deeds : List (Deed σ)) (path : String) (directive : AttributeDirective σ) : Prop :=
  ∃ ctx before, .apply directive ctx before ∈ deeds ∧ segments ctx.home = segments path

/-- Among some calls is one of a directive of the namespace at a path in which
it sees a value under its own name. -/
def Heard (deeds : List (Deed σ)) (path : String) (directive : AttributeDirective σ) : Prop :=
  ∃ ctx before, .apply directive ctx before ∈ deeds ∧ segments ctx.home = segments path ∧
    (ctx.value? directive.name).isSome

/-- Every call leaves its trace. -/
theorem Decorates.exists_of_mem {calls : List (Call σ)} {actor actor' : Actor} {w w' : σ}
    {deeds : List (Deed σ)} (h : Decorates calls actor w deeds actor' w') {call : Call σ}
    (hcall : call ∈ calls) : ∃ before, .apply call.directive call.ctx before ∈ deeds := by
  induction h with
  | nil => cases hcall
  | cons _ _ ih =>
    rcases List.mem_cons.1 hcall with rfl | hcall
    · exact ⟨_, List.mem_cons_self⟩
    · obtain ⟨before, hmem⟩ := ih hcall
      exact ⟨before, List.mem_cons_of_mem _ hmem⟩

/-- What the deeds say of a directive is what the calls say. -/
theorem Decorates.exists_apply_iff {calls : List (Call σ)} {actor actor' : Actor} {w w' : σ}
    {deeds : List (Deed σ)} (h : Decorates calls actor w deeds actor' w')
    {build : ElementDirective σ} {told : Context σ} {directive : AttributeDirective σ}
    {P : Context σ → Prop} :
    (∃ ctx before, .apply directive ctx before ∈ Deed.build build told :: deeds ∧ P ctx) ↔
      ∃ ctx, ⟨ctx, directive⟩ ∈ calls ∧ P ctx := by
  constructor
  · rintro ⟨ctx, before, hmem, hctx⟩
    rcases List.mem_cons.1 hmem with hhead | hmem
    · cases hhead
    · exact ⟨ctx, h.mem hmem, hctx⟩
  · rintro ⟨ctx, hcall, hctx⟩
    obtain ⟨before, hmem⟩ := h.exists_of_mem hcall
    exact ⟨ctx, before, List.mem_cons_of_mem _ hmem, hctx⟩

namespace Registry

variable {registry : Registry σ} {imports : List String} {node : Node}
  {children : List (Offspring σ)} {w : σ}

/-- At most one directive has the say about a tag. -/
theorem Decides.unique {tag : String} {found found' : Match σ}
    (h : registry.Decides imports tag found) (h' : registry.Decides imports tag found') :
    found = found' :=
  Option.some.inj ((match?_eq_some_iff.2 h).symm.trans (match?_eq_some_iff.2 h'))

/-- An attribute that calls a directive makes its call. -/
theorem Triggers.mem {folded : Option String} {ctx : Context σ} {triggers : List Attribute}
    {calls : List (Call σ)} (h : registry.Triggers folded ctx triggers calls)
    {trigger : Attribute} {home : String} {directive : AttributeDirective σ}
    (hmem : trigger ∈ triggers) (hnames : registry.Names folded trigger home directive) :
    ⟨{ ctx with home, trigger := some trigger }, directive⟩ ∈ calls := by
  rw [← triggers_iff.1 h, List.mem_filterMap]
  exact ⟨trigger, hmem, qualifiedCall?_eq_some_iff.2 ⟨home, directive, hnames, rfl⟩⟩

/-- Calls of attributes keep away from the namespace that is folded. -/
theorem Triggers.apart {folded : Option String} {ctx : Context σ} {triggers : List Attribute}
    {calls : List (Call σ)} (h : registry.Triggers folded ctx triggers calls) {call : Call σ}
    (hcall : call ∈ calls) (path : String) (hpath : folded = some path) :
    segments call.ctx.home ≠ segments path := by
  obtain ⟨_, -, _, _, hnames, rfl⟩ := h.exists_of_mem hcall
  exact hnames.apart path hpath

/-- An attribute names the same directive whatever is folded, if it keeps away
from that. -/
theorem Names.refold {folded folded' : Option String} {trigger : Attribute} {home : String}
    {directive : AttributeDirective σ} (h : registry.Names folded trigger home directive)
    (hapart : ∀ path, folded' = some path → segments home ≠ segments path) :
    registry.Names folded' trigger home directive :=
  ⟨hapart, h.leads⟩

/-- What an attribute names is a directive of the namespace it names. -/
theorem Names.mem_attributes {folded : Option String} {trigger : Attribute} {home : String}
    {directive : AttributeDirective σ} (h : registry.Names folded trigger home directive)
    {ns : Namespace σ} (hns : registry.find? home = some ns) : directive ∈ ns.attributes := by
  obtain ⟨part, ns', -, hns', hfirst⟩ := h.leads
  obtain ⟨earlier, later, hall, -⟩ := hfirst.place
  cases hns.symm.trans hns'
  simp [hall]

/-- Spellings of the same segments lead to the same namespace. -/
theorem find?_congr {path path' : String} (h : segments path = segments path') :
    registry.find? path = registry.find? path' :=
  congrArg registry.node? h

/-- What is built is decorated by the common attributes of its namespace, if it
wants them, and by the calls of the attributes of the node; a recorded registry
writes that down. -/
theorem exists_decorates {found : Match σ} {actor : Actor} {w' : σ}
    (hdecides : registry.Decides imports node.name found)
    (hbuild : (found.directive.build
      ⟨found.home, none, node, registry.offspring imports node.children⟩).run w =
        (some actor, w')) :
    let ctx : Context σ := ⟨found.home, none, node, registry.offspring imports node.children⟩
    ∃ calls deeds actor' w'',
      registry.Triggers (if found.directive.common then some found.home else none) ctx
        node.attributes calls ∧
      Decorates ((if found.directive.common then found.ns.attributes.map (Call.mk ctx) else []) ++
        calls) actor w' deeds actor' w'' ∧
      (registry.recorded.resolve imports node).run (w, []) =
        (some actor', w'', .build found.directive ctx :: deeds) := by
  intro ctx
  rw [resolve_recorded]
  cases hdone : registry.enactment imports node (registry.offspring imports node.children) w with
  | mk built rest =>
    obtain ⟨w'', deeds⟩ := rest
    have hconduct := conducts_iff.2 hdone
    cases hconduct with
    | unknown h =>
      have hnone := match?_eq_none_iff.2 h
      rw [match?_eq_some_iff.2 hdecides] at hnone
      cases hnone
    | declined h hdeclined =>
      obtain rfl := hdecides.unique h
      cases hbuild.symm.trans hdeclined
    | built h hbuilt hcalls hrun =>
      obtain rfl := hdecides.unique h
      cases hbuild.symm.trans hbuilt
      exact ⟨_, _, _, _, hcalls, hrun, rfl⟩

/-- **An attribute that asks for a directive is heard**, unless it asks for one
that the node gets anyway and spells its path or its name otherwise. Whatever a
registry holds, where the tag of a node is known and the node is built, and an
attribute of it is qualified by a path of an existing namespace and the name of
a directive there, that directive is applied. It sees a value under its own
name exactly when the attributes of its namespace are not folded over the node,
or something is spelled out as the fold looks for it. -/
theorem heard_iff {found : Match σ} {actor : Actor} {w' : σ}
    (hdecides : registry.Decides imports node.name found)
    (hbuild : (found.directive.build
      ⟨found.home, none, node, registry.offspring imports node.children⟩).run w =
        (some actor, w'))
    {trigger : Attribute} (hmem : trigger ∈ node.attributes) {path : String}
    {directive : AttributeDirective σ} (hnames : registry.Names none trigger path directive) :
    let deeds := ((registry.recorded.resolve imports node).run (w, [])).2.2
    Applied deeds path directive ∧
      (Heard deeds path directive ↔
        ((found.directive.common = true ∧ segments path = segments found.home) →
          node.Spells found.home directive.name)) := by
  obtain ⟨calls, deeds, actor', w'', hcalls, hrun, hresolve⟩ :=
    exists_decorates hdecides hbuild
  simp only [hresolve, Applied, Heard, hrun.exists_apply_iff]
  by_cases hfolded : found.directive.common = true ∧ segments path = segments found.home
  · -- Only the fold runs it, and there it is called by nobody.
    obtain ⟨hcommon, hpath⟩ := hfolded
    rw [if_pos hcommon] at hcalls ⊢
    have hcall := List.mem_append_left calls (List.mem_map_of_mem (f := Call.mk
      ⟨found.home, none, node, registry.offspring imports node.children⟩)
      (hnames.mem_attributes (find?_congr hpath ▸ hdecides.exists_ns)))
    refine ⟨⟨_, hcall, hpath.symm⟩, fun ⟨ctx, hctx, hhome, hvalue⟩ _ => ?_, fun h =>
      ⟨_, hcall, hpath.symm, (Context.isSome_value?_iff rfl).2 (h ⟨hcommon, hpath⟩)⟩⟩
    rcases List.mem_append.1 hctx with hctx | hctx
    · obtain ⟨_, -, heq⟩ := List.mem_map.1 hctx
      cases heq
      exact (Context.isSome_value?_iff rfl).1 hvalue
    · exact absurd (hhome.trans hpath) (hcalls.apart hctx _ rfl)
  · -- The attribute calls it, and it sees the value of that attribute.
    have hcall := hcalls.mem hmem (hnames.refold fun home hhome => by
      split at hhome
      next hcommon =>
        cases hhome
        exact fun hpath => hfolded ⟨hcommon, hpath⟩
      next => cases hhome)
    have hcall := List.mem_append_right (if found.directive.common then found.ns.attributes.map
      (Call.mk ⟨found.home, none, node, registry.offspring imports node.children⟩) else []) hcall
    have hvalue := hnames.value?
      ⟨found.home, none, node, registry.offspring imports node.children⟩
    exact ⟨⟨_, hcall, rfl⟩, fun _ h => absurd h hfolded,
      fun _ => ⟨_, hcall, rfl, Option.isSome_iff_exists.2 ⟨_, hvalue⟩⟩⟩

/-- The attribute directive that the gallery has beside its labels. -/
def shade : AttributeDirective Unit where
  name := "shade"
  apply := fun _ actor => pure actor

/-- What the gallery finds for a label. -/
def labelMatch : Match Unit where
  home := "ui"
  ns.elements := [{ name := "label", build := fun _ => pure (some (.label "" 1 false)) }]
  ns.attributes := [shade]
  directive := { name := "label", build := fun _ => pure (some (.label "" 1 false)) }

/-- The placard asks for the shade by the path it was imported by, and the
shade hears it. -/
theorem heard_iff_placard :
    Heard ((gallery.recorded.resolve ["no", "ui"] placard).run ((), [])).2.2 "ui" shade :=
  have hdecides : gallery.Decides ["no", "ui"] placard.name labelMatch :=
    match?_eq_some_iff.1 rfl
  have hnames : gallery.Names none ⟨"ui:shade", "2"⟩ "ui" shade :=
    ⟨nofun, "shade", labelMatch.ns, by decide +kernel, rfl, firstNamed_iff.2 rfl⟩
  (heard_iff hdecides (w := ()) rfl (by decide) hnames).2.2 fun _ =>
    .inr ⟨⟨"ui:shade", "2"⟩, by decide, by decide +kernel⟩

/-- A label with one attribute. -/
def sign (written : String) : Node where
  name := "label"
  attributes := [⟨written, "2"⟩]

/-- Whether a call is of no directive that sees a value under its own name. -/
def isDeaf : Deed Unit → Bool
  | .apply directive ctx _ => (ctx.value? directive.name).isNone
  | .build _ _ => true

theorem not_exists_of_isDeaf {deeds : List (Deed Unit)} (h : deeds.all isDeaf = true) :
    ¬ ∃ directive ctx before, .apply directive ctx before ∈ deeds ∧
      (ctx.value? directive.name).isSome := by
  rintro ⟨directive, ctx, before, hmem, hvalue⟩
  have hnone := List.all_eq_true.1 h _ hmem
  rw [isDeaf, Option.isNone_iff_eq_none] at hnone
  rw [hnone] at hvalue
  cases hvalue

/-- **Spelled otherwise, it is not heard**: in other case, or with an empty
segment in the path. Nothing that is applied sees a value. -/
theorem not_heard_sign :
    (gallery.Decides ["no", "ui"] "label" labelMatch ∧
      ∀ ctx, ((labelMatch.directive.build ctx).run ()).1.isSome) ∧
    (gallery.Names none ⟨"ui:SHADE", "2"⟩ "ui" shade ∧
      ¬ ∃ directive ctx before, .apply directive ctx before ∈
          ((gallery.recorded.resolve ["no", "ui"] (sign "ui:SHADE")).run ((), [])).2.2 ∧
        (ctx.value? directive.name).isSome) ∧
    (gallery.Names none ⟨"ui.:shade", "2"⟩ "ui." shade ∧
      ¬ ∃ directive ctx before, .apply directive ctx before ∈
          ((gallery.recorded.resolve ["no", "ui"] (sign "ui.:shade")).run ((), [])).2.2 ∧
        (ctx.value? directive.name).isSome) := by
  have hcapitals : gallery.Names none ⟨"ui:SHADE", "2"⟩ "ui" shade :=
    ⟨nofun, "SHADE", labelMatch.ns, by decide +kernel, rfl, firstNamed_iff.2 rfl⟩
  have hdotted : gallery.Names none ⟨"ui.:shade", "2"⟩ "ui." shade :=
    ⟨nofun, "shade", labelMatch.ns, by decide +kernel, rfl, firstNamed_iff.2 rfl⟩
  exact ⟨⟨match?_eq_some_iff.1 rfl, fun _ => rfl⟩,
    ⟨hcapitals, not_exists_of_isDeaf (by decide +kernel)⟩,
    ⟨hdotted, not_exists_of_isDeaf (by decide +kernel)⟩⟩

end Registry

end SceneScript
