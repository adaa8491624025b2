import Mathlib.Data.List.TakeDrop
import SceneScript.Markup.Node
import SceneScript.Text.Caseless
/-!
# Markup — the presentation of a tree

A tree can be presented in many ways: the attributes of an element in any
order, its tag in any case of ASCII letters, and all of it anywhere in a source
(`Restyled`). Where no element has two attributes of a name (`Node.Distinct`),
looking up an attribute is the same in all of them, by its name
(`attr?_eq_of_perm`) as well as by the two parts of a qualified name
(`findQualified?_eq_of_perm`).
-/

namespace SceneScript

namespace Markup

mutual

/-- Two presentations of a tree. -/
inductive Restyled : Node → Node → Prop where
  | mk {node node' : Node} (tag : Text.alike node.name node'.name = true)
      (attributes : node.attributes.Perm node'.attributes) (text : node.text = node'.text)
      (children : RestyledEach node.children node'.children) : Restyled node node'

/-- Presentations of as many trees, one by one. -/
inductive RestyledEach : List Node → List Node → Prop where
  | nil : RestyledEach [] []
  | cons {node node' : Node} {rest rest' : List Node} (first : Restyled node node')
      (later : RestyledEach rest rest') : RestyledEach (node :: rest) (node' :: rest')

end

mutual

/-- No element of a tree has two attributes of a name. -/
def Node.Distinct : Node → Prop
  | ⟨_, attributes, _, children, _⟩ => (attributes.map (·.name)).Nodup ∧ DistinctEach children

/-- The same of a list of trees. -/
def DistinctEach : List Node → Prop
  | [] => True
  | node :: rest => node.Distinct ∧ DistinctEach rest

end

theorem Node.Distinct.attributes {node : Node} (h : node.Distinct) :
    (node.attributes.map (·.name)).Nodup := by
  obtain ⟨name, attributes, text, children, position⟩ := node
  exact h.1

theorem Node.Distinct.children {node : Node} (h : node.Distinct) : DistinctEach node.children := by
  obtain ⟨name, attributes, text, children, position⟩ := node
  exact h.2

/-! ## Looking up attributes -/

/-- The parts of a qualified name, and the colon between them, are all of it. -/
theorem toList_of_qualifiedName? {name path part : String}
    (h : qualifiedName? name = some (path, part)) :
    name.toList = path.toList ++ ':' :: part.toList := by
  unfold qualifiedName? at h
  rw [List.span_eq_takeWhile_dropWhile] at h
  split at h
  next hspan =>
    cases h
    obtain ⟨htake, hdrop⟩ := Prod.mk.inj hspan
    rw [String.toList_ofList, String.toList_ofList, ← htake, ← hdrop,
      List.takeWhile_append_dropWhile]
  next => cases h

/-- A name is known by its parts. -/
theorem name_eq_of_qualified? {a b : Attribute} {parts : String × String}
    (ha : a.qualified? = some parts) (hb : b.qualified? = some parts) : a.name = b.name :=
  String.toList_injective
    ((toList_of_qualifiedName? ha).trans (toList_of_qualifiedName? hb).symm)

variable {attributes attributes' : List Attribute}

/-- **The order of attributes does not matter** to a search that at most one
name can satisfy. -/
theorem find?_eq_of_perm (hperm : attributes.Perm attributes')
    (hnodup : (attributes.map (·.name)).Nodup) {p : Attribute → Bool}
    (hone : ∀ a b, p a = true → p b = true → a.name = b.name) :
    attributes.find? p = attributes'.find? p := by
  induction hperm with
  | nil => rfl
  | cons a _ ih =>
    rw [List.find?_cons, List.find?_cons, ih (List.nodup_cons.1 hnodup).2]
  | swap a b rest =>
    rw [List.map_cons, List.map_cons, List.nodup_cons, List.mem_cons] at hnodup
    -- of two neighbours at most one is found
    have hnot : p a = true → p b = true → False := fun ha hb =>
      hnodup.1 (.inl (hone b a hb ha))
    cases ha : p a <;> cases hb : p b <;> simp_all
  | trans hfirst _ ih ih' =>
    rw [ih hnodup, ih' ((hfirst.map _).nodup_iff.1 hnodup)]

theorem attr?_eq_of_perm {node node' : Node} (hperm : node.attributes.Perm node'.attributes)
    (hnodup : (node.attributes.map (·.name)).Nodup) (name : String) :
    node.attr? name = node'.attr? name := by
  rw [Node.attr?, Node.attr?, find?_eq_of_perm hperm hnodup fun a b ha hb => ?_]
  exact (beq_iff_eq.1 ha).trans (beq_iff_eq.1 hb).symm

theorem findQualified?_eq_of_perm (hperm : attributes.Perm attributes')
    (hnodup : (attributes.map (·.name)).Nodup) (parts : String × String) :
    attributes.find? (fun a => a.qualified? == some parts) =
      attributes'.find? fun a => a.qualified? == some parts :=
  find?_eq_of_perm hperm hnodup fun _ _ ha hb =>
    name_eq_of_qualified? (beq_iff_eq.1 ha) (beq_iff_eq.1 hb)

end Markup

end SceneScript
