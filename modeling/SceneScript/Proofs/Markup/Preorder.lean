import SceneScript.Proofs.Markup.Grammar
import SceneScript.Proofs.Markup.Spelling
/-!
# Markup — the places of a tree

The elements of a document in the order they open are its opening tags in the
order they are read: name by name and place by place (`headings_of_derives`). So
what is known of the places of tokens is known of those of elements, and both
point at the source (`places_of_source`).
-/

namespace SceneScript

namespace Markup

mutual

/-- The elements of a tree, each before its children. -/
def Node.preorder : Node → List Node
  | ⟨name, attributes, text, children, position⟩ =>
    ⟨name, attributes, text, children, position⟩ :: preorderEach children

/-- The elements of trees, one tree after the other. -/
def Node.preorderEach : List Node → List Node
  | [] => []
  | node :: rest => node.preorder ++ preorderEach rest

end

/-- What an opening tag says of its element: the name, and the place. -/
def Node.heading (node : Node) : String × Position :=
  (node.name, node.position)

/-- The name and the place of an opening tag. -/
def Placed.heading? (token : Placed) : Option (String × Position) :=
  match token.token with
  | .tagOpen name => some (name, token.position)
  | _ => none

theorem Node.preorder_eq (node : Node) : node.preorder = node :: preorderEach node.children := by
  obtain ⟨name, attributes, text, children, position⟩ := node
  rw [preorder]

/-! ## Elements and opening tags -/

theorem heading?_eq_some_iff {token : Placed} {name : String} {p : Position} :
    token.heading? = some (name, p) ↔ token = ⟨.tagOpen name, p⟩ := by
  obtain ⟨token, position⟩ := token
  cases token <;> simp [Placed.heading?]

/-- A tag has one opening. -/
theorem headings_of_opens {tag : List Placed} {node : Node} (h : Opens tag node) :
    tag.filterMap Placed.heading? = [node.heading] ∧ node.children = [] := by
  obtain @⟨opening, tag, name, attributes, hopening, htag, -⟩ := h
  have hnone : tag.filterMap Placed.heading? = [] := by
    rw [List.filterMap_eq_nil_iff]
    intro token hmem
    have hattr : token.token ∈ attributes.map fun a => Token.attr a.name a.value :=
      htag ▸ List.mem_map_of_mem hmem
    obtain ⟨a, -, ha⟩ := List.mem_map.1 hattr
    simp [Placed.heading?, ← ha]
  have hsome : opening.heading? = some (name, opening.position) := by
    simp [Placed.heading?, hopening]
  rw [List.filterMap_cons, hsome, hnone]
  exact ⟨rfl, rfl⟩

mutual

/-- **The elements of a tree are its opening tags**, in the same order. -/
theorem headings_of_derives {tokens : List Placed} {node : Node} (h : Derives tokens node) :
    tokens.filterMap Placed.heading? = node.preorder.map Node.heading := by
  match h with
  | @Derives.closed tag node closing hopens hclosing =>
    obtain ⟨htag, hchildren⟩ := headings_of_opens hopens
    rw [List.filterMap_append, htag, Node.preorder_eq, hchildren]
    simp [Placed.heading?, hclosing, Node.preorderEach]
  | @Derives.filled tag inside node ending closing parts children hopens hending hcontent
      hclosing =>
    have htag := (headings_of_opens hopens).1
    have hinside := headings_of_content hcontent
    rw [List.filterMap_append, htag, Node.preorder_eq]
    simp [Placed.heading?, hending, hclosing, hinside, Node.heading]

/-- The elements of content are its opening tags. -/
theorem headings_of_content {tokens : List Placed} {parts : List String} {children : List Node}
    (h : Content tokens parts children) :
    tokens.filterMap Placed.heading? = (Node.preorderEach children).map Node.heading := by
  match h with
  | .nil => rfl
  | .text htoken hrest =>
    have hrest := headings_of_content hrest
    simp [Placed.heading?, htoken, hrest]
  | .element hchild hrest =>
    have hchild := headings_of_derives hchild
    have hrest := headings_of_content hrest
    rw [List.filterMap_append, hchild, hrest, Node.preorderEach, List.map_append]

end

/-- **The elements of a document open in the order of its tags.** -/
theorem headings_sublist {tokens : List Placed} {root : Node} (h : parseTokens tokens = .ok root) :
    (root.preorder.map Node.heading).Sublist (tokens.filterMap Placed.heading?) := by
  have hstart : Reached [] .before := .before (List.forall_mem_nil _)
  obtain @⟨blanks, element, blanks', ending, root, -, helement, -, -⟩ := hstart.run h
  have hsublist : element.Sublist (blanks ++ element ++ blanks' ++ ending) := by
    rw [List.append_assoc, List.append_assoc]
    exact (List.sublist_append_left _ _).trans (List.sublist_append_right _ _)
  rw [← headings_of_derives helement]
  exact hsublist.filterMap _

/-! ## Places point at the source -/

/-- An opening tag stands where the source has an angle and then the name of the
element, and no more of it. -/
theorem Laid.exists_of_tagOpen {source : List Char} {placed : List Placed}
    (h : Laid .content [] source placed) {name : String} {p : Position}
    (hmem : ⟨.tagOpen name, p⟩ ∈ placed) :
    ∃ before after, source = before ++ '<' :: (name.toList ++ after) ∧ EndsName after ∧
      p = .behind before := by
  obtain ⟨before, text, after, hsource, hp, ⟨heof, -⟩ | ⟨mode, mode', hspells⟩⟩ :=
    h.exists_of_mem hmem
  · cases heof
  · generalize htoken : Token.tagOpen name = token at hspells
    cases hspells with
    | tagOpen hname hends =>
      cases htoken
      refine ⟨before, after, ?_, hends, hp⟩
      rw [hsource, String.toList_ofList, List.cons_append]
    | _ => cases htoken

/-- **Places point at the source.** Where a source has tokens, it is laid out as
them: each stands behind what precedes its own characters. Their places grow, and
the last of them is the end of the source. Where it is a document, every element
stands where its angle and its name are read, and in the order in which the
elements open their places grow. -/
theorem places_of_source (source : String) :
    (∀ placed, tokenize source = .ok placed →
      Laid .content [] source.toList placed ∧
      (placed.map (·.position)).Pairwise (· < ·) ∧
      placed.getLast? = some ⟨.eof, .behind source.toList⟩) ∧
    (∀ root, parse source = .ok root →
      (∀ node ∈ root.preorder, ∃ before after,
        source.toList = before ++ '<' :: (node.name.toList ++ after) ∧ EndsName after ∧
          node.position = .behind before) ∧
      (root.preorder.map (·.position)).Pairwise (· < ·)) := by
  constructor
  · intro placed h
    have hlaid := tokenize_eq_ok_iff.1 h
    exact ⟨hlaid, hlaid.pairwise, hlaid.getLast?_eq⟩
  · intro root h
    cases htokens : tokenize source with
    | error e =>
      rw [parse, htokens] at h
      cases h
    | ok placed =>
      rw [parse, htokens] at h
      have hlaid := tokenize_eq_ok_iff.1 htokens
      have hheadings := headings_sublist h
      constructor
      · intro node hnode
        obtain ⟨token, hmem, htoken⟩ :=
          List.mem_filterMap.1 (hheadings.subset (List.mem_map_of_mem hnode))
        rw [heading?_eq_some_iff.1 htoken] at hmem
        exact hlaid.exists_of_tagOpen hmem
      · have htags : (placed.filterMap Placed.heading?).Pairwise fun a b => a.2 < b.2 := by
          have hplaced := List.pairwise_map.1 hlaid.pairwise
          refine hplaced.filterMap _ fun token token' hlt heading hheading heading' hheading' => ?_
          rw [heading?_eq_some_iff.1 hheading, heading?_eq_some_iff.1 hheading'] at hlt
          exact hlt
        have hnodes := htags.sublist hheadings
        rw [List.pairwise_map] at hnodes ⊢
        exact hnodes

/-- A document with a line feed in a comment, in a value and between its tags. -/
def ledger : String := "<!-- \n --><a x='\n1'>\n <b/>é<c></c></a >"

/-- Where its tokens and its elements stand. -/
theorem places_of_source_ledger :
    (∃ placed, tokenize ledger = .ok placed ∧
      placed.map (fun token => (token.position.line, token.position.col)) =
        [(2, 5), (2, 8), (3, 3), (3, 4), (4, 2), (4, 4), (4, 6), (4, 7), (4, 9), (4, 10),
          (4, 14), (4, 19)] ∧
      Laid .content [] ledger.toList placed) ∧
    ∃ root, parse ledger = .ok root ∧
      root.preorder.map (fun node => (node.name, node.position.line, node.position.col)) =
        [("a", 2, 5), ("b", 4, 2), ("c", 4, 7)] ∧
      (root.preorder.map (·.position)).Pairwise (· < ·) := by
  have htokens : (tokenize ledger).toOption.map (·.map fun token =>
      (token.position.line, token.position.col)) =
        some [(2, 5), (2, 8), (3, 3), (3, 4), (4, 2), (4, 4), (4, 6), (4, 7), (4, 9), (4, 10),
          (4, 14), (4, 19)] := by decide +kernel
  have hnodes : (parse ledger).toOption.map (·.preorder.map fun node =>
      (node.name, node.position.line, node.position.col)) =
        some [("a", 2, 5), ("b", 4, 2), ("c", 4, 7)] := by decide +kernel
  constructor
  · cases hplaced : tokenize ledger with
    | error e =>
      rw [hplaced] at htokens
      cases htokens
    | ok placed =>
      rw [hplaced] at htokens
      exact ⟨placed, rfl, Option.some.inj htokens, ((places_of_source ledger).1 placed hplaced).1⟩
  · cases hroot : parse ledger with
    | error e =>
      rw [hroot] at hnodes
      cases hnodes
    | ok root =>
      rw [hroot] at hnodes
      exact ⟨root, rfl, Option.some.inj hnodes, ((places_of_source ledger).2 root hroot).2⟩

end Markup

end SceneScript
