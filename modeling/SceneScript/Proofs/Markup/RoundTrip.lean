import SceneScript.Proofs.Markup.Print
import SceneScript.Proofs.Markup.Unplaced
/-!
# Markup — printing and reading back

Reading the print of a well-formed tree gives the tree back, at other places;
and what is read from any source is well formed. So every accepted document
can be printed and read again without a loss (`parse_print`).

The first half follows the tree: its tokens carry the reading from the
opening of its tag to the element around it. The second half follows the
reading: every element it has open is well formed after each token.
-/

namespace SceneScript

namespace Markup

/-- An element does not have an attribute exactly when none of its attributes
has the name. -/
theorem Node.hasAttr_eq_false_iff {node : Node} {name : String} :
    node.hasAttr name = false ↔ name ∉ node.attributes.map (·.name) := by
  rw [hasAttr, attr?, Option.isSome_map, ← Bool.not_eq_true, List.find?_isSome, not_iff_not]
  simp

/-! ## Reading the tokens of a tree -/

/-- The tokens, wherever they stand, lead from one reading to the other. -/
def Reading.Leads (reading : Reading) (tokens : List Token) (reading' : Reading) : Prop :=
  ∀ last rest, run last reading (tokens.map Token.unplaced ++ rest) = run last reading' rest

namespace Reading

variable {reading reading' reading'' : Reading} {tokens tokens' : List Token}

theorem Leads.refl (reading : Reading) : reading.Leads [] reading :=
  fun _ _ => rfl

theorem Leads.trans (h : reading.Leads tokens reading') (h' : reading'.Leads tokens' reading'') :
    reading.Leads (tokens ++ tokens') reading'' := by
  intro last rest
  rw [List.map_append, List.append_assoc, h, h']

theorem leads_one {token : Token} (hne : token ≠ .eof)
    (h : ∀ next, reading.take next token.unplaced = .ok reading') :
    reading.Leads [token] reading' := by
  intro last rest
  have hgoes : token.unplaced.token ≠ .eof := hne
  rw [List.map_singleton, List.singleton_append, run, if_neg hgoes, h]

/-- The tags that open here belong inside these elements. -/
def OpensInto (reading : Reading) (outer : List Node) : Prop :=
  ∀ name, reading.Leads [.tagOpen name] (.inTag { name } outer)

theorem opensInto_before : before.OpensInto [] :=
  fun _ => leads_one (by simp) fun _ => rfl

theorem opensInto_inContent (node : Node) (outer : List Node) :
    (inContent node outer).OpensInto (node :: outer) :=
  fun _ => leads_one (by simp) fun _ => rfl

/-- Attributes of different names join the element one by one. -/
theorem leads_attributes (node : Node) (outer : List Node) (attributes : List Attribute)
    (h : ((node.attributes ++ attributes).map (·.name)).Nodup) :
    (inTag node outer).Leads (attributes.map fun a => .attr a.name a.value)
      (inTag { node with attributes := node.attributes ++ attributes } outer) := by
  induction attributes generalizing node with
  | nil =>
    cases node
    rw [List.append_nil]
    exact .refl _
  | cons a attributes ih =>
    have hnew : a.name ∉ node.attributes.map (·.name) := by
      rw [List.map_append, List.map_cons, List.nodup_append] at h
      intro hmem
      exact h.2.2 _ hmem _ List.mem_cons_self rfl
    have hone : (inTag node outer).Leads [.attr a.name a.value]
        (inTag (node.addAttr a.name a.value) outer) := by
      refine leads_one (by simp) fun next => ?_
      simp [take, Token.unplaced, Node.hasAttr_eq_false_iff.2 hnew]
    have hrest := ih (node.addAttr a.name a.value) (by simpa [Node.addAttr] using h)
    simpa [Node.addAttr] using hone.trans hrest

/-- The text of an element without blanks at its ends is kept. -/
theorem leads_text (node : Node) (outer : List Node) (hnode : node.text = none)
    {text : Option String} (h : ∀ t, text = some t → t ≠ "" ∧ Text.trim t = t) :
    (inContent node outer).Leads (text.map Token.text).toList
      (inContent { node with text } outer) := by
  cases text with
  | none =>
    cases node
    cases hnode
    exact .refl _
  | some t =>
    have htrim := (h t rfl).2
    have hblank : Text.isBlankText t = false := (Text.tight_toList_iff.2 (h t rfl)).all_eq_false
    refine leads_one (by simp) fun next => ?_
    simp [take, Token.unplaced, Node.addText, hblank, htrim, hnode]

/-- The children of an element join it one by one. -/
theorem leads_tokensEach {children : List Node}
    (h : ∀ child ∈ children, ∀ {reading outer}, OpensInto reading outer →
      reading.Leads child.tokens (close child.unplaced outer))
    (node : Node) (outer : List Node) :
    (inContent node outer).Leads (Node.tokensEach children)
      (inContent { node with children := node.children ++ children.map Node.unplaced } outer) := by
  induction children generalizing node with
  | nil =>
    cases node
    rw [List.map_nil, List.append_nil]
    exact .refl _
  | cons child children ih =>
    have hone := h child List.mem_cons_self (opensInto_inContent node outer)
    have hrest := ih (fun other hmem => h other (List.mem_cons_of_mem _ hmem))
      (node.addChild child.unplaced)
    rw [Node.tokensEach]
    simpa [Node.addChild] using hone.trans hrest

/-- **The tokens of a tree read as the tree**, wherever a tag may open. -/
theorem leads_tokens {node : Node} (h : node.WellFormed) {outer : List Node}
    (hopens : reading.OpensInto outer) :
    reading.Leads node.tokens (close node.unplaced outer) := by
  induction h generalizing reading outer with
  | @intro node own _ ih =>
    obtain ⟨name, attributes, text, children, position⟩ := node
    -- the tag, its attributes, the text, the children and the closing tag in turn
    have hopen := hopens name
    have hattributes := leads_attributes { name } outer attributes own.distinct
    have hend (node : Node) : (inTag node outer).Leads [.tagEnd] (inContent node outer) :=
      leads_one (by simp) fun _ => rfl
    have htext := leads_text { name, attributes } outer rfl own.text
    have hchildren := leads_tokensEach ih { name, attributes, text } outer
    have hclose (node : Node) :
        (inContent node outer).Leads [.closeTag node.name] (close node outer) :=
      leads_one (by simp) fun _ => by simp [take, Token.unplaced]
    have hall := hopen.trans (hattributes.trans ((hend _).trans
      (htext.trans (hchildren.trans (hclose _)))))
    simpa [Node.tokens, Node.unplaced_eq] using hall

end Reading

/-- **The print of a well-formed tree reads as the tree**, at other places. -/
theorem parse_print {node : Node} (h : node.WellFormed) :
    (parse (print node)).map Node.unplaced = .ok node.unplaced := by
  have hscans := h.scans []
  rw [List.append_nil] at hscans
  obtain ⟨placed, p, htokens, hscan⟩ := hscans.scan_eq .start
  have hend : scan .content p [] = .ok [⟨.eof, p⟩] := by
    rw [scan]
    rfl
  have hparse : parse (print node) = parseTokens (placed ++ [⟨.eof, p⟩]) := by
    rw [parse, tokenize, print, String.toList_ofList, hscan, hend]
    rfl
  have hplaced : placed.map (·.token.unplaced) = node.tokens.map Token.unplaced := by
    rw [← htokens, List.map_map]
    rfl
  -- the positions are forgotten on both sides, so the tokens lead to the tree
  have hread : (parse (print node)).toOption.map Node.unplaced = some node.unplaced := by
    rw [hparse, parseTokens, ← Reading.run_unplaced _ .start, List.map_append, hplaced,
      Reading.unplaced, Reading.leads_tokens h Reading.opensInto_before]
    rfl
  cases hresult : parse (print node) with
  | error e =>
    rw [hresult] at hread
    cases hread
  | ok root =>
    rw [hresult] at hread
    exact congrArg Except.ok (Option.some.inj hread)

/-! ## What is read is well formed -/

namespace Node

theorem wellFormed_opened {name : String} (h : isName name.toList = true) (position : Position) :
    ({ name, position } : Node).WellFormed :=
  .intro ⟨h, by simp, by simp, by simp⟩ (by simp)

namespace WellFormed

variable {node : Node}

theorem addAttr (h : node.WellFormed) {name value : String} (hname : isName name.toList = true)
    (hnew : node.hasAttr name = false) : (node.addAttr name value).WellFormed := by
  obtain ⟨own, hchildren⟩ := h
  refine .intro ⟨own.name, ?_, ?_, own.text⟩ hchildren
  · intro a ha
    rcases List.mem_append.1 ha with ha | ha
    · exact own.names a ha
    · rw [List.mem_singleton.1 ha]
      exact hname
  · rw [Node.addAttr, List.map_append]
    refine List.nodup_append.2 ⟨own.distinct, by simp, ?_⟩
    rintro other hother _ hlast rfl
    rw [List.map_singleton, List.mem_singleton] at hlast
    rw [hlast] at hother
    exact hasAttr_eq_false_iff.1 hnew hother

theorem addChild (h : node.WellFormed) {child : Node} (hchild : child.WellFormed) :
    (node.addChild child).WellFormed := by
  obtain ⟨own, hchildren⟩ := h
  refine .intro ⟨own.name, own.names, own.distinct, own.text⟩ ?_
  intro other hother
  rcases List.mem_append.1 hother with hother | hother
  · exact hchildren other hother
  · rw [List.mem_singleton.1 hother]
    exact hchild

/-- **Text that is joined has no blanks at its ends**: neither part has. -/
theorem addText (h : node.WellFormed) (part : String) : (node.addText part).WellFormed := by
  unfold Node.addText
  split
  next => exact h
  next hblank =>
    obtain ⟨own, hchildren⟩ := h
    have hpart : Text.Tight (Text.trim part).toList := by
      rw [Text.trim, String.toList_ofList]
      exact Text.tight_trimmed (Bool.not_eq_true _ ▸ hblank)
    refine .intro ⟨own.name, own.names, own.distinct, ?_⟩ hchildren
    intro text htext
    -- the part stands alone, or is joined to what was there by a space
    have htight : Text.Tight text.toList := by
      cases hold : node.text with
      | none =>
        simp only [hold, Option.some.injEq] at htext
        rw [← htext]
        exact hpart
      | some old =>
        have hjoined := (Text.tight_toList_iff.2 (own.text old hold)).join hpart
        simp only [hold, Option.some.injEq] at htext
        rw [← htext]
        simpa using hjoined
    exact Text.tight_toList_iff.1 htight

end WellFormed

end Node

/-- Every element that the reading has open, or has read, is well formed. -/
def Reading.Sound : Reading → Prop
  | before => True
  | inTag node outer => node.WellFormed ∧ ∀ parent ∈ outer, parent.WellFormed
  | inContent node outer => node.WellFormed ∧ ∀ parent ∈ outer, parent.WellFormed
  | after root => root.WellFormed

namespace Reading

variable {reading reading' : Reading}

theorem sound_close {node : Node} {outer : List Node} (h : node.WellFormed)
    (houter : ∀ parent ∈ outer, parent.WellFormed) : (close node outer).Sound := by
  cases outer with
  | nil => exact h
  | cons parent outer =>
    rw [List.forall_mem_cons] at houter
    exact ⟨houter.1.addChild h, houter.2⟩

/-- **A named token keeps the reading sound.** -/
theorem Sound.take (h : reading.Sound) {next : Position} {token : Placed}
    (hnamed : token.token.Named) (htake : reading.take next token = .ok reading') :
    reading'.Sound := by
  obtain ⟨token, p⟩ := token
  cases reading with
  | before =>
    cases token with
    | text t =>
      simp only [Reading.take] at htake
      split at htake <;> cases htake
      trivial
    | tagOpen name =>
      cases htake
      exact ⟨Node.wellFormed_opened hnamed p, by simp⟩
    | _ => cases htake
  | inTag node outer =>
    obtain ⟨hnode, houter⟩ := h
    cases token with
    | attr name value =>
      simp only [Reading.take] at htake
      split at htake
      next => cases htake
      next hnew =>
        cases htake
        exact ⟨hnode.addAttr hnamed (Bool.not_eq_true _ ▸ hnew), houter⟩
    | tagEnd =>
      cases htake
      exact ⟨hnode, houter⟩
    | selfClose =>
      cases htake
      exact sound_close hnode houter
    | _ => cases htake
  | inContent node outer =>
    obtain ⟨hnode, houter⟩ := h
    cases token with
    | text t =>
      cases htake
      exact ⟨hnode.addText t, houter⟩
    | tagOpen name =>
      cases htake
      exact ⟨Node.wellFormed_opened hnamed p, List.forall_mem_cons.2 ⟨hnode, houter⟩⟩
    | closeTag name =>
      simp only [Reading.take] at htake
      split at htake <;> cases htake
      exact sound_close hnode houter
    | _ => cases htake
  | after root =>
    cases token with
    | text t =>
      simp only [Reading.take] at htake
      split at htake <;> cases htake
      exact h
    | _ => cases htake

/-- What a sound reading finishes with is well formed. -/
theorem Sound.finish (h : reading.Sound) {last : Position} {root : Node}
    (hfinish : reading.finish last = .ok root) : root.WellFormed := by
  cases reading with
  | after =>
    cases hfinish
    exact h
  | _ => cases hfinish

/-- **Reading named tokens gives a well-formed tree.** -/
theorem Sound.run {tokens : List Placed} (h : reading.Sound)
    (hnamed : ∀ token ∈ tokens, token.token.Named) {last : Position} {root : Node}
    (hrun : run last reading tokens = .ok root) : root.WellFormed := by
  induction tokens generalizing reading with
  | nil => exact h.finish hrun
  | cons token rest ih =>
    rw [List.forall_mem_cons] at hnamed
    rw [Reading.run] at hrun
    split at hrun
    next => exact h.finish hrun
    next =>
      split at hrun
      next reading' htake => exact ih (h.take hnamed.1 htake) hnamed.2 hrun
      next => cases hrun

end Reading

/-- **What is read from a source is well formed.** -/
theorem wellFormed_of_parse {source : String} {root : Node} (h : parse source = .ok root) :
    root.WellFormed := by
  cases htokens : tokenize source with
  | error e =>
    rw [parse, htokens] at h
    cases h
  | ok tokens =>
    rw [parse, htokens] at h
    have hbefore : Reading.before.Sound := trivial
    exact hbefore.run (named_of_scan htokens) h

/-! ## The round trip -/

/-- **Markup makes the round trip**: the print of a well-formed tree reads as
the tree, up to positions; and whatever source was read, its tree is well
formed, so that it can be printed and read again. -/
theorem parse_roundTrip :
    (∀ node : Node, node.WellFormed →
      (parse (print node)).map Node.unplaced = .ok node.unplaced) ∧
    (∀ source root, parse source = .ok root →
      root.WellFormed ∧ (parse (print root)).map Node.unplaced = .ok root.unplaced) := by
  refine ⟨fun node h => parse_print h, fun source root h => ?_⟩
  have hroot := wellFormed_of_parse h
  exact ⟨hroot, parse_print hroot⟩

/-- A tree with something to escape in a value and in a text. -/
def specimen : Node where
  name := "a"
  attributes := [⟨"x", "<&>\x22"⟩, ⟨"fx:y", ""⟩]
  text := some "1 < 2"
  children := [{ name := "b" }, { name := "b", text := some "&amp;" }]

theorem wellFormed_specimen : specimen.WellFormed := by
  have hb : isName "b".toList = true := by decide +kernel
  refine .intro ⟨by decide +kernel, by decide +kernel, by decide, ?_⟩ ?_
  · rintro _ ⟨⟩
    decide +kernel
  · simp only [specimen, List.forall_mem_cons]
    refine ⟨Node.wellFormed_opened hb _, .intro ⟨hb, by simp, by simp, ?_⟩ (by simp), by simp⟩
    rintro _ ⟨⟩
    decide +kernel

/-- The round trip of a tree, and of a source whose text comes in two parts. -/
theorem parse_roundTrip_specimen :
    (specimen.WellFormed ∧ (parse (print specimen)).map Node.unplaced = .ok specimen.unplaced) ∧
    ∃ root, parse "<a x='1'> one <b/>two\n</a>" = .ok root ∧ root.text = some "one two" ∧
      root.WellFormed ∧ (parse (print root)).map Node.unplaced = .ok root.unplaced := by
  have htext : (parse "<a x='1'> one <b/>two\n</a>").toOption.map (·.text) =
      some (some "one two") := by decide +kernel
  refine ⟨⟨wellFormed_specimen, parse_roundTrip.1 specimen wellFormed_specimen⟩, ?_⟩
  cases hroot : parse "<a x='1'> one <b/>two\n</a>" with
  | error e =>
    rw [hroot] at htext
    cases htext
  | ok root =>
    rw [hroot] at htext
    exact ⟨root, rfl, Option.some.inj htext, parse_roundTrip.2 _ root hroot⟩

end Markup

end SceneScript
