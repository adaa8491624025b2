import SceneScript.Proofs.Markup.RoundTrip
/-!
# Markup — the grammar of tokens

Which lists of tokens are documents, and of what tree, said without the walk
that reads them. `Opens` is a tag up to its end, `Derives` an element with the
tree it gives, `Content` what stands between a tag and its closing tag, and
`Document` a whole list, with blank text around the root element and anything
at all behind the end token.

Reading accepts exactly the documents of the grammar and gives their trees
(`parseTokens_eq_ok_iff`). One half follows the derivation: its tokens carry
the reading from where the element opens to the element around it. The other
half follows the reading: `Reached` says what has been derived when it stands
at a token.
-/

namespace SceneScript

namespace Markup

/-! ## The grammar -/

/-- The text of an element whose text tokens hold the given parts: those that
are not blank, trimmed, with a space between two of them. -/
def textOf (parts : List String) : Option String :=
  match (parts.filter fun part => !Text.isBlankText part).map Text.trim with
  | [] => none
  | texts => some (" ".intercalate texts)

/-- Text tokens of blanks alone. -/
def Blanks (tokens : List Placed) : Prop :=
  ∀ token ∈ tokens, ∃ t, token.token = .text t ∧ Text.isBlankText t = true

/-- A tag up to its end: the name of the element and its attributes, no two of
one name. The element stands where its tag opens. -/
inductive Opens : List Placed → Node → Prop
  | intro {opening : Placed} {tag : List Placed} {name : String} {attributes : List Attribute} :
      opening.token = .tagOpen name →
      tag.map (·.token) = attributes.map (fun a => .attr a.name a.value) →
      (attributes.map (·.name)).Nodup →
      Opens (opening :: tag) { name, attributes, position := opening.position }

mutual

/-- **The tokens of an element**, with the tree they give. -/
inductive Derives : List Placed → Node → Prop
  | closed {tag : List Placed} {node : Node} {closing : Placed} :
      Opens tag node → closing.token = .selfClose → Derives (tag ++ [closing]) node
  | filled {tag inside : List Placed} {node : Node} {ending closing : Placed}
      {parts : List String} {children : List Node} :
      Opens tag node → ending.token = .tagEnd → Content inside parts children →
      closing.token = .closeTag node.name →
      Derives (tag ++ ending :: (inside ++ [closing])) { node with text := textOf parts, children }

/-- The tokens between a tag and its closing tag: text tokens with their texts,
and elements with their trees. -/
inductive Content : List Placed → List String → List Node → Prop
  | nil : Content [] [] []
  | text {token : Placed} {part : String} {rest : List Placed} {parts : List String}
      {children : List Node} :
      token.token = .text part → Content rest parts children →
      Content (token :: rest) (part :: parts) children
  | element {tokens rest : List Placed} {parts : List String} {child : Node}
      {children : List Node} :
      Derives tokens child → Content rest parts children →
      Content (tokens ++ rest) parts (child :: children)

end

/-- **A document**: an element with nothing but blank text around it, up to the
end of the tokens or to an end token, whatever follows that. -/
inductive Document : List Placed → Node → Prop
  | intro {before element after ending : List Placed} {root : Node} :
      Blanks before → Derives element root → Blanks after →
      (∀ token, ending.head? = some token → token.token = .eof) →
      Document (before ++ element ++ after ++ ending) root

/-! ## The text of an element -/

/-- **Text is joined part by part.** -/
theorem addText_textOf (node : Node) (parts : List String) (part : String) :
    ({ node with text := textOf parts } : Node).addText part =
      { node with text := textOf (parts ++ [part]) } := by
  unfold Node.addText textOf
  rw [List.filter_append, List.map_append]
  cases hblank : Text.isBlankText part with
  | true => simp [hblank]
  | false =>
    generalize hold : (parts.filter fun part => !Text.isBlankText part).map Text.trim = texts
    cases texts with
    | nil => simp [hblank]
    | cons first rest =>
      have hjoin := String.intercalate_append_of_ne_nil (s := " ") (List.cons_ne_nil first rest)
        (List.cons_ne_nil (Text.trim part) [])
      simpa [hblank] using hjoin.symm

/-! ## Reading what is derived -/

/-- Wherever the tokens stand, they carry one reading to the other. -/
def Reading.Takes (reading : Reading) (tokens : List Placed) (reading' : Reading) : Prop :=
  ∀ last rest, run last reading (tokens ++ rest) = run last reading' rest

namespace Reading

variable {reading reading' reading'' : Reading} {tokens tokens' : List Placed}

theorem Takes.refl (reading : Reading) : reading.Takes [] reading :=
  fun _ _ => rfl

theorem Takes.trans (h : reading.Takes tokens reading') (h' : reading'.Takes tokens' reading'') :
    reading.Takes (tokens ++ tokens') reading'' := by
  intro last rest
  rw [List.append_assoc, h, h']

theorem Takes.cons {token : Placed} (h : reading.Takes [token] reading')
    (h' : reading'.Takes tokens reading'') : reading.Takes (token :: tokens) reading'' :=
  h.trans h'

/-- A token that is taken, whatever comes next. -/
theorem takes_one {token : Placed} (hne : token.token ≠ .eof)
    (h : ∀ next, reading.take next token = .ok reading') : reading.Takes [token] reading' := by
  intro last rest
  rw [List.singleton_append, run, if_neg hne, h]

/-- Tags that open here belong inside these elements. -/
def RoomFor (reading : Reading) (outer : List Node) : Prop :=
  ∀ (opening : Placed) (name : String), opening.token = .tagOpen name →
    reading.Takes [opening] (.inTag { name, position := opening.position } outer)

theorem roomFor_before : before.RoomFor [] :=
  fun opening name h => takes_one (by simp [h]) fun _ => by simp [take, h]

theorem roomFor_inContent (node : Node) (outer : List Node) :
    (inContent node outer).RoomFor (node :: outer) :=
  fun opening name h => takes_one (by simp [h]) fun _ => by simp [take, h]

/-- Attributes of different names join the element one by one. -/
theorem takes_attributes (node : Node) (outer : List Node) {tag : List Placed}
    {attributes : List Attribute}
    (htag : tag.map (·.token) = attributes.map fun a => .attr a.name a.value)
    (hnodup : ((node.attributes ++ attributes).map (·.name)).Nodup) :
    (inTag node outer).Takes tag
      (inTag { node with attributes := node.attributes ++ attributes } outer) := by
  induction attributes generalizing node tag with
  | nil =>
    rw [List.map_nil, List.map_eq_nil_iff] at htag
    cases node
    rw [htag, List.append_nil]
    exact .refl _
  | cons a attributes ih =>
    obtain ⟨token, rest, rfl, htoken, hrest⟩ := List.map_eq_cons_iff.1 htag
    have hnew : a.name ∉ node.attributes.map (·.name) := by
      rw [List.map_append, List.map_cons, List.nodup_append] at hnodup
      intro hmem
      exact hnodup.2.2 _ hmem _ List.mem_cons_self rfl
    have hone : (inTag node outer).Takes [token] (inTag (node.addAttr a.name a.value) outer) :=
      takes_one (by simp [htoken]) fun next => by
        simp [take, htoken, Node.hasAttr_eq_false_iff.2 hnew]
    have hall := ih (node.addAttr a.name a.value) hrest (by simpa [Node.addAttr] using hnodup)
    simpa [Node.addAttr] using hone.cons hall

/-- A tag is read up to its end. -/
theorem takes_tag {tag : List Placed} {node : Node} {outer : List Node} (h : Opens tag node)
    (hroom : reading.RoomFor outer) : reading.Takes tag (.inTag node outer) := by
  cases h with
  | @intro opening tag name attributes hopening htag hnodup =>
    have hattributes := takes_attributes { name, position := opening.position } outer htag hnodup
    exact (hroom opening name hopening).cons hattributes

mutual

/-- **An element of the grammar is read as its tree**, wherever a tag may
open. -/
theorem takes_of_derives {tokens : List Placed} {node : Node} {reading : Reading}
    {outer : List Node} (h : Derives tokens node) (hroom : reading.RoomFor outer) :
    reading.Takes tokens (close node outer) := by
  match h with
  | .closed hopens hclosing =>
    refine (takes_tag hopens hroom).trans (takes_one (by simp [hclosing]) fun _ => ?_)
    simp [take, hclosing]
  | @Derives.filled tag inside node ending closing parts children hopens hending hcontent
      hclosing =>
    have hend : (inTag node outer).Takes [ending] (inContent node outer) :=
      takes_one (by simp [hending]) fun _ => by simp [take, hending]
    have hinside := takes_of_content hcontent node outer [] []
    have hempty : ({ node with text := textOf [], children := [] } : Node) = node := by
      cases hopens
      rfl
    rw [hempty] at hinside
    refine (takes_tag hopens hroom).trans (hend.cons (hinside.trans ?_))
    exact takes_one (by simp [hclosing]) fun _ => by simp [take, hclosing]

theorem takes_of_content {tokens : List Placed} {parts : List String} {children : List Node}
    (h : Content tokens parts children) (node : Node) (outer : List Node) (before : List String)
    (elder : List Node) :
    (inContent { node with text := textOf before, children := elder } outer).Takes tokens
      (inContent { node with text := textOf (before ++ parts), children := elder ++ children }
        outer) := by
  match h with
  | .nil =>
    rw [List.append_nil, List.append_nil]
    exact .refl _
  | @Content.text token part rest parts _ htoken hrest =>
    have hone : (inContent { node with text := textOf before, children := elder } outer).Takes
        [token] (inContent { node with text := textOf (before ++ [part]), children := elder }
          outer) :=
      takes_one (by simp [htoken]) fun _ => by
        simp only [take, htoken]
        exact congrArg (fun node => Except.ok (inContent node outer))
          (addText_textOf { node with children := elder } before part)
    have hall := takes_of_content hrest node outer (before ++ [part]) elder
    rw [List.append_assoc] at hall
    exact hone.cons hall
  | @Content.element tokens rest _ child children hchild hrest =>
    have hone := takes_of_derives hchild (roomFor_inContent
      { node with text := textOf before, children := elder } outer)
    have hall := takes_of_content hrest node outer before (elder ++ [child])
    rw [List.append_assoc] at hall
    exact hone.trans hall

end

/-- Blank text is read over, before the root element and after it. -/
theorem takes_blanks {tokens : List Placed} (h : Blanks tokens) :
    before.Takes tokens before ∧ ∀ root, (after root).Takes tokens (after root) := by
  induction tokens with
  | nil => exact ⟨.refl _, fun _ => .refl _⟩
  | cons token rest ih =>
    obtain ⟨⟨t, htoken, hblank⟩, hrest⟩ := List.forall_mem_cons.1 h
    have hone (reading : Reading) (htake : ∀ next, reading.take next token = .ok reading) :
        reading.Takes [token] reading := takes_one (by simp [htoken]) htake
    refine ⟨(hone before fun _ => ?_).cons (ih hrest).1,
      fun root => (hone (after root) fun _ => ?_).cons ((ih hrest).2 root)⟩
    · simp [take, htoken, hblank]
    · simp [take, htoken, hblank]

/-- Once the root element is read, the end of the tokens ends the document, and
so does an end token. -/
theorem run_after {last : Position} {root : Node} {ending : List Placed}
    (h : ∀ token, ending.head? = some token → token.token = .eof) :
    run last (after root) ending = .ok root := by
  cases ending with
  | nil => rfl
  | cons token rest =>
    rw [run, if_pos (h token rfl)]
    rfl

end Reading

/-- **A document of the grammar is read as its tree.** -/
theorem Document.parseTokens_eq {tokens : List Placed} {root : Node} (h : Document tokens root) :
    parseTokens tokens = .ok root := by
  obtain ⟨hbefore, helement, hafter, hending⟩ := h
  rw [parseTokens, List.append_assoc, List.append_assoc, (Reading.takes_blanks hbefore).1,
    Reading.takes_of_derives helement Reading.roomFor_before]
  exact ((Reading.takes_blanks hafter).2 root _ _).trans (Reading.run_after hending)

/-! ## Deriving what is read -/

theorem Blanks.append {tokens tokens' : List Placed} (h : Blanks tokens) (h' : Blanks tokens') :
    Blanks (tokens ++ tokens') :=
  List.forall_mem_append.2 ⟨h, h'⟩

theorem blanks_singleton {token : Placed} {t : String} (h : token.token = .text t)
    (hblank : Text.isBlankText t = true) : Blanks [token] :=
  List.forall_mem_singleton.2 ⟨t, h, hblank⟩

/-- One more attribute, of a new name. -/
theorem Opens.attr {tag : List Placed} {node : Node} {token : Placed} {name value : String}
    (h : Opens tag node) (htoken : token.token = .attr name value)
    (hnew : node.hasAttr name = false) : Opens (tag ++ [token]) (node.addAttr name value) := by
  cases h with
  | @intro opening tag tagName attributes hopening htag hnodup =>
    have htokens : (tag ++ [token]).map (·.token) =
        (attributes ++ [Attribute.mk name value]).map fun a => .attr a.name a.value := by
      rw [List.map_append, List.map_append, htag]
      simp [htoken]
    have hnames : ((attributes ++ [Attribute.mk name value]).map (·.name)).Nodup := by
      rw [List.map_append, List.nodup_append]
      refine ⟨hnodup, by simp, ?_⟩
      rintro other hother _ hlast rfl
      rw [List.map_singleton, List.mem_singleton] at hlast
      rw [hlast] at hother
      exact Node.hasAttr_eq_false_iff.1 hnew hother
    exact .intro hopening htokens hnames

/-- Content in a row is content. -/
theorem Content.append {tokens tokens' : List Placed} {parts parts' : List String}
    {children children' : List Node} (h : Content tokens parts children)
    (h' : Content tokens' parts' children') :
    Content (tokens ++ tokens') (parts ++ parts') (children ++ children') := by
  match h with
  | .nil => exact h'
  | .text htoken hrest => exact .text htoken (hrest.append h')
  | .element hchild hrest =>
    rw [List.append_assoc]
    exact .element hchild (hrest.append h')

/-- An element that is not closed yet: its tag, and the content so far. -/
inductive Begins : List Placed → Node → Prop
  | intro {tag inside : List Placed} {node : Node} {ending : Placed} {parts : List String}
      {children : List Node} :
      Opens tag node → ending.token = .tagEnd → Content inside parts children →
      Begins (tag ++ ending :: inside) { node with text := textOf parts, children }

namespace Begins

variable {tokens : List Placed} {node : Node}

/-- One more part of text. -/
theorem addText (h : Begins tokens node) {token : Placed} {part : String}
    (htoken : token.token = .text part) : Begins (tokens ++ [token]) (node.addText part) := by
  cases h with
  | @intro tag inside node ending parts children hopens hending hcontent =>
    rw [addText_textOf { node with children := children } parts part, List.append_assoc]
    have hone : Content [token] [part] [] := .text htoken .nil
    have hinside := hcontent.append hone
    rw [List.append_nil] at hinside
    have hbegins := Begins.intro hopens hending hinside
    exact hbegins

/-- One more child. -/
theorem addChild (h : Begins tokens node) {element : List Placed} {child : Node}
    (hchild : Derives element child) : Begins (tokens ++ element) (node.addChild child) := by
  cases h with
  | @intro tag inside node ending parts children hopens hending hcontent =>
    have hone : Content (element ++ []) [] [child] := .element hchild .nil
    have hinside := hcontent.append hone
    rw [List.append_nil, List.append_nil] at hinside
    have hbegins := Begins.intro hopens hending hinside
    rw [List.append_assoc]
    exact hbegins

/-- The closing tag. -/
theorem derives (h : Begins tokens node) {token : Placed}
    (htoken : token.token = .closeTag node.name) : Derives (tokens ++ [token]) node := by
  cases h with
  | intro hopens hending hcontent =>
    rw [List.append_assoc]
    exact .filled hopens hending hcontent htoken

end Begins

/-- The tokens before a place where a tag may open: blank text before the root
element, or else the elements that are not closed yet, innermost first. -/
inductive Encloses : List Placed → List Node → Prop
  | root {tokens : List Placed} : Blanks tokens → Encloses tokens []
  | element {tokens element : List Placed} {node : Node} {outer : List Node} :
      Encloses tokens outer → Begins element node → Encloses (tokens ++ element) (node :: outer)

/-- **What has been derived** when the reading stands behind some tokens. -/
inductive Reached : List Placed → Reading → Prop
  | before {tokens : List Placed} : Blanks tokens → Reached tokens .before
  | inTag {tokens tag : List Placed} {node : Node} {outer : List Node} :
      Encloses tokens outer → Opens tag node → Reached (tokens ++ tag) (.inTag node outer)
  | inContent {tokens element : List Placed} {node : Node} {outer : List Node} :
      Encloses tokens outer → Begins element node →
      Reached (tokens ++ element) (.inContent node outer)
  | after {blanks element blanks' : List Placed} {root : Node} :
      Blanks blanks → Derives element root → Blanks blanks' →
      Reached (blanks ++ element ++ blanks') (.after root)

namespace Reached

variable {tokens : List Placed} {reading reading' : Reading}

/-- An element that is complete joins the one around it, or is the root. -/
theorem close {element : List Placed} {node : Node} {outer : List Node}
    (h : Encloses tokens outer) (helement : Derives element node) :
    Reached (tokens ++ element) (Reading.close node outer) := by
  cases h with
  | root hblanks =>
    have hnone : Blanks [] := List.forall_mem_nil _
    have hafter := Reached.after hblanks helement hnone
    rwa [List.append_nil] at hafter
  | element hencloses hbegins =>
    rw [List.append_assoc]
    exact .inContent hencloses (hbegins.addChild helement)

/-- A tag that opens. -/
theorem opened {outer : List Node} {token : Placed} {name : String} (h : Encloses tokens outer)
    (htoken : token.token = .tagOpen name) :
    Reached (tokens ++ [token]) (.inTag { name, position := token.position } outer) := by
  have hopens : Opens [token] { name, position := token.position } :=
    .intro htoken rfl List.nodup_nil
  exact .inTag h hopens

/-- **Every token that is taken carries the derivation on.** -/
theorem take (h : Reached tokens reading) {next : Position} {token : Placed}
    (htake : reading.take next token = .ok reading') : Reached (tokens ++ [token]) reading' := by
  cases h with
  | before hblanks =>
    cases htoken : token.token with
    | text t =>
      simp only [Reading.take, htoken] at htake
      split at htake
      next hblank =>
        cases htake
        exact .before (hblanks.append (blanks_singleton htoken hblank))
      next => cases htake
    | tagOpen name =>
      simp only [Reading.take, htoken, Except.ok.injEq] at htake
      rw [← htake]
      exact opened (.root hblanks) htoken
    | _ => simp [Reading.take, htoken] at htake
  | inTag hencloses hopens =>
    rw [List.append_assoc]
    cases htoken : token.token with
    | attr name value =>
      simp only [Reading.take, htoken] at htake
      split at htake
      next => cases htake
      next hnew =>
        cases htake
        exact .inTag hencloses (hopens.attr htoken (Bool.not_eq_true _ ▸ hnew))
    | selfClose =>
      simp only [Reading.take, htoken, Except.ok.injEq] at htake
      rw [← htake]
      exact close hencloses (.closed hopens htoken)
    | tagEnd =>
      simp only [Reading.take, htoken, Except.ok.injEq] at htake
      rw [← htake]
      have hbegins : Begins _ _ := .intro hopens htoken .nil
      cases hopens
      exact .inContent hencloses hbegins
    | _ => simp [Reading.take, htoken] at htake
  | inContent hencloses hbegins =>
    cases htoken : token.token with
    | text t =>
      simp only [Reading.take, htoken, Except.ok.injEq] at htake
      rw [← htake, List.append_assoc]
      exact .inContent hencloses (hbegins.addText htoken)
    | tagOpen name =>
      simp only [Reading.take, htoken, Except.ok.injEq] at htake
      rw [← htake]
      exact opened (.element hencloses hbegins) htoken
    | closeTag name =>
      simp only [Reading.take, htoken] at htake
      split at htake
      next hname =>
        cases htake
        rw [List.append_assoc]
        exact close hencloses (hbegins.derives (hname ▸ htoken))
      next => cases htake
    | _ => simp [Reading.take, htoken] at htake
  | after hblanks helement hblanks' =>
    cases htoken : token.token with
    | text t =>
      simp only [Reading.take, htoken] at htake
      split at htake
      next hblank =>
        cases htake
        rw [List.append_assoc]
        exact .after hblanks helement (hblanks'.append (blanks_singleton htoken hblank))
      next => cases htake
    | _ => simp [Reading.take, htoken] at htake

/-- A reading that can end has a document behind it. -/
theorem finish (h : Reached tokens reading) {last : Position} {root : Node}
    (hfinish : reading.finish last = .ok root) {ending : List Placed}
    (hending : ∀ token, ending.head? = some token → token.token = .eof) :
    Document (tokens ++ ending) root := by
  cases h with
  | after hblanks helement hblanks' =>
    cases hfinish
    exact .intro hblanks helement hblanks' hending
  | _ => cases hfinish

/-- **A run that ends well has read a document.** -/
theorem run (h : Reached tokens reading) {rest : List Placed} {last : Position} {root : Node}
    (hrun : Reading.run last reading rest = .ok root) : Document (tokens ++ rest) root := by
  induction rest generalizing tokens reading with
  | nil => exact h.finish hrun (by simp)
  | cons token rest ih =>
    rw [Reading.run] at hrun
    split at hrun
    next heof => exact h.finish hrun (by simpa using heof)
    next =>
      split at hrun
      next reading' htake =>
        have hdocument := ih (h.take htake) hrun
        rwa [List.append_assoc] at hdocument
      next => cases hrun

end Reached

/-- **Reading accepts exactly the grammar.** A list of tokens, from wherever, is
read as a tree exactly when it is a document of that tree. -/
theorem parseTokens_eq_ok_iff {tokens : List Placed} {root : Node} :
    parseTokens tokens = .ok root ↔ Document tokens root := by
  refine ⟨fun h => ?_, Document.parseTokens_eq⟩
  have hstart : Reached [] .before := .before (List.forall_mem_nil _)
  exact hstart.run h

end Markup

end SceneScript
