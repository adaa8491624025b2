import SceneScript.Proofs.Markup.Scans
/-!
# Markup — the canonical print of a tree

An element prints as its opening tag with its attributes in order, its text,
its children, and its closing tag; the four characters that mean something
else in a source are written as references. Scanning the print of a tree
whose names are names gives the tokens of the tree (`Node.WellFormed.scans`).
-/

namespace SceneScript

namespace Markup

/-! ## References -/

/-- The name by which the print refers to a character that means something
else in a source. -/
def referenceName? (c : Char) : Option (List Char) :=
  if c = '&' then some ['a', 'm', 'p']
  else if c = '<' then some ['l', 't']
  else if c = '>' then some ['g', 't']
  else if c = '\x22' then some ['q', 'u', 'o', 't']
  else none

/-- A character as the print writes it. -/
def encoded (c : Char) : List Char :=
  match referenceName? c with
  | some name => '&' :: (name ++ [';'])
  | none => [c]

/-- A text as the print writes it. -/
def encodeReferences (cs : List Char) : List Char :=
  cs.flatMap encoded

/-- The reference is one to the character. -/
theorem referenced?_of_referenceName? {c : Char} {name : List Char}
    (h : referenceName? c = some name) : referenced? name = some c := by
  unfold referenceName? at h
  split_ifs at h with hamp hlt hgt hquot <;> cases h
  · rw [hamp]
    decide
  · rw [hlt]
    decide
  · rw [hgt]
    decide
  · rw [hquot]
    decide

/-- Nothing in the name of a reference ends it, opens a tag or ends a value. -/
theorem ne_of_mem_referenceName? {c : Char} {name : List Char}
    (h : referenceName? c = some name) : ∀ d ∈ name, d ≠ ';' ∧ d ≠ '\x22' ∧ d ≠ '<' := by
  unfold referenceName? at h
  split_ifs at h <;> cases h <;> simp

/-- A character without such a name means itself. -/
theorem ne_of_referenceName?_eq_none {c : Char} (h : referenceName? c = none) :
    c ≠ '&' ∧ c ≠ '\x22' ∧ c ≠ '<' := by
  unfold referenceName? at h
  split_ifs at h with hamp hlt hgt hquot
  exact ⟨hamp, hquot, hlt⟩

/-- A reference is replaced by its character. -/
theorem decodeReferences_reference {name : List Char} {c : Char} (hname : ∀ d ∈ name, d ≠ ';')
    (hc : referenced? name = some c) (rest : List Char) :
    decodeReferences ('&' :: (name ++ ';' :: rest)) = (decodeReferences rest).map (c :: ·) := by
  have hall : ∀ d ∈ name, decide (d ≠ ';') = true := fun d hd => decide_eq_true (hname d hd)
  have htake : (name ++ ';' :: rest).takeWhile (fun d => decide (d ≠ ';')) = name := by
    rw [List.takeWhile_append_of_pos hall]
    simp
  have hdrop : (name ++ ';' :: rest).dropWhile (fun d => decide (d ≠ ';')) = ';' :: rest := by
    rw [List.dropWhile_append_of_pos hall]
    simp
  rw [decodeReferences, if_pos rfl]
  split
  next hnil =>
    rw [hdrop] at hnil
    cases hnil
  next _ tail htail =>
    rw [hdrop] at htail
    cases htail
    simp only [htake, hc]

theorem decodeReferences_encoded (c : Char) (rest : List Char) :
    decodeReferences (encoded c ++ rest) = (decodeReferences rest).map (c :: ·) := by
  unfold encoded
  split
  next name hname =>
    have href := decodeReferences_reference (fun d hd => (ne_of_mem_referenceName? hname d hd).1)
      (referenced?_of_referenceName? hname) rest
    simpa using href
  next hnone =>
    have hamp := (ne_of_referenceName?_eq_none hnone).1
    rw [List.singleton_append, decodeReferences, if_neg hamp]

/-- **Encoding is undone by decoding.** -/
theorem decodeReferences_encodeReferences (cs : List Char) :
    decodeReferences (encodeReferences cs) = .ok cs := by
  induction cs with
  | nil => rw [encodeReferences, List.flatMap_nil, decodeReferences]
  | cons c cs ih =>
    rw [encodeReferences] at ih
    rw [encodeReferences, List.flatMap_cons, decodeReferences_encoded, ih]
    rfl

/-- No encoded text ends a value or opens a tag. -/
theorem ne_of_mem_encodeReferences {cs : List Char} :
    ∀ c ∈ encodeReferences cs, c ≠ '\x22' ∧ c ≠ '<' := by
  intro c hc
  obtain ⟨d, -, hd⟩ := List.mem_flatMap.1 hc
  unfold encoded at hd
  split at hd
  next name hname =>
    have hmem : c = '&' ∨ c ∈ name ∨ c = ';' := by simpa using hd
    rcases hmem with rfl | hmem | rfl
    · decide
    · exact (ne_of_mem_referenceName? hname c hmem).2
    · decide
  next hnone =>
    rw [List.mem_singleton.1 hd]
    exact (ne_of_referenceName?_eq_none hnone).2

theorem encodeReferences_ne_nil {cs : List Char} (h : cs ≠ []) : encodeReferences cs ≠ [] := by
  obtain ⟨c, cs, rfl⟩ := List.exists_cons_of_ne_nil h
  intro hnil
  have hencoded : encoded c = [] := List.flatMap_eq_nil_iff.1 hnil c List.mem_cons_self
  unfold encoded at hencoded
  split at hencoded <;> cases hencoded

/-! ## Printing -/

/-- An attribute as the print writes it, after a space. -/
def Attribute.printed (a : Attribute) : List Char :=
  ' ' :: (a.name.toList ++ '=' :: '\x22' :: (encodeReferences a.value.toList ++ ['\x22']))

mutual

/-- The characters of the print of a tree. -/
def Node.printed : Node → List Char
  | ⟨name, attributes, text, children, _⟩ =>
    '<' :: (name.toList ++ (attributes.flatMap Attribute.printed ++
      '>' :: (encodeReferences (text.getD "").toList ++ (printedEach children ++
        '<' :: '/' :: (name.toList ++ ['>'])))))

/-- The characters of the prints of trees, one after the other. -/
def Node.printedEach : List Node → List Char
  | [] => []
  | node :: rest => node.printed ++ printedEach rest

end

/-- **The canonical print of a tree.** -/
def print (node : Node) : String :=
  String.ofList node.printed

example :
    print { name := "a", attributes := [⟨"x", "1<2"⟩], text := some "hi",
            children := [{ name := "b" }] } =
      "<a x=\x221&lt;2\x22>hi<b></b></a>" := by
  decide

/-! ## The tokens of a tree -/

mutual

/-- The tokens that a tree is written with. -/
def Node.tokens : Node → List Token
  | ⟨name, attributes, text, children, _⟩ =>
    .tagOpen name :: (attributes.map (fun a => .attr a.name a.value) ++
      .tagEnd :: ((text.map Token.text).toList ++ (tokensEach children ++ [.closeTag name])))

/-- The tokens of trees, one after the other. -/
def Node.tokensEach : List Node → List Token
  | [] => []
  | node :: rest => node.tokens ++ tokensEach rest

end

/-! ## Trees that can be written -/

/-- What an element needs to be written, apart from its children: names that
are names, no attribute twice, and a text that has no blanks to lose. -/
structure Node.Proper (node : Node) : Prop where
  name : isName node.name.toList = true
  names : ∀ a ∈ node.attributes, isName a.name.toList = true
  distinct : (node.attributes.map (·.name)).Nodup
  text : ∀ text, node.text = some text → text ≠ "" ∧ Text.trim text = text

/-- Every element of the tree is proper. -/
inductive Node.WellFormed : Node → Prop
  | intro {node : Node} : node.Proper → (∀ child ∈ node.children, child.WellFormed) →
      node.WellFormed

/-! ## Scanning the print -/

theorem scans_attributes {attributes : List Attribute}
    (h : ∀ a ∈ attributes, isName a.name.toList = true) (rest : List Char) :
    Scans .tag (attributes.flatMap Attribute.printed ++ rest)
      (attributes.map fun a => .attr a.name a.value) .tag rest := by
  induction attributes with
  | nil => exact .refl
  | cons a attributes ih =>
    have hname := h a List.mem_cons_self
    obtain ⟨c, cs, hcons, hstart⟩ := exists_cons_of_isName hname
    have hattr := scans_attr hname ne_of_mem_encodeReferences
      (decodeReferences_encodeReferences a.value.toList)
      (attributes.flatMap Attribute.printed ++ rest)
    rw [String.ofList_toList, String.ofList_toList] at hattr
    have hall := hattr.trans (ih fun b hb => h b (List.mem_cons_of_mem _ hb))
    -- the space before the name is skipped, since no blank starts a name
    rw [hcons] at hall
    have hspace := scans_space (isBlank_of_isNameStart hstart) hall
    simpa [Attribute.printed, hcons] using hspace

/-- What follows the name of a tag ends the name. -/
theorem exists_cons_attributes (attributes : List Attribute) (rest : List Char) :
    ∃ c cs, attributes.flatMap Attribute.printed ++ '>' :: rest = c :: cs ∧
      isNameChar c = false := by
  cases attributes with
  | nil => exact ⟨'>', rest, rfl, by decide⟩
  | cons a attributes => exact ⟨' ', _, rfl, by decide⟩

theorem scans_text_printed {text : Option String} (h : ∀ t, text = some t → t ≠ "")
    (rest : List Char) :
    Scans .content (encodeReferences (text.getD "").toList ++ '<' :: rest)
      (text.map Token.text).toList .content ('<' :: rest) := by
  cases text with
  | none => exact .refl
  | some t =>
    have hne : t.toList ≠ [] := by simpa using h t rfl
    have htext := scans_text (encodeReferences_ne_nil hne)
      (fun c hc => (ne_of_mem_encodeReferences c hc).2)
      (decodeReferences_encodeReferences t.toList) rest
    rw [String.ofList_toList] at htext
    exact htext

/-- What follows the text of an element opens a tag. -/
theorem exists_printedEach_append (nodes : List Node) (rest : List Char) :
    ∃ cs, Node.printedEach nodes ++ '<' :: rest = '<' :: cs := by
  match nodes with
  | [] => exact ⟨rest, rfl⟩
  | ⟨name, attributes, text, children, position⟩ :: nodes =>
    rw [Node.printedEach, Node.printed]
    exact ⟨_, rfl⟩

theorem scans_printedEach {nodes : List Node}
    (h : ∀ node ∈ nodes, ∀ rest, Scans .content (node.printed ++ rest) node.tokens .content rest)
    (rest : List Char) :
    Scans .content (Node.printedEach nodes ++ rest) (Node.tokensEach nodes) .content rest := by
  induction nodes with
  | nil => exact .refl
  | cons node nodes ih =>
    have hnode := h node List.mem_cons_self (Node.printedEach nodes ++ rest)
    have hnodes := ih fun other hmem => h other (List.mem_cons_of_mem _ hmem)
    rw [Node.printedEach, Node.tokensEach, List.append_assoc]
    exact hnode.trans hnodes

/-- **The print of a tree scans as the tokens of the tree**, whatever follows
it. -/
theorem Node.WellFormed.scans {node : Node} (h : node.WellFormed) (rest : List Char) :
    Scans .content (node.printed ++ rest) node.tokens .content rest := by
  induction h generalizing rest with
  | @intro node own _ ih =>
    obtain ⟨name, attributes, text, children, position⟩ := node
    -- the parts of the print, each with all that comes after it
    have hclose := scans_closing own.name rest
    have hchildren := (scans_printedEach ih _).trans hclose
    obtain ⟨cs, hcs⟩ := exists_printedEach_append children ('/' :: (name.toList ++ '>' :: rest))
    rw [hcs] at hchildren
    have htext := (scans_text_printed (fun t ht => (own.text t ht).1) cs).trans hchildren
    have htag := (scans_tagEnd _).trans htext
    have hattributes := (scans_attributes own.names _).trans htag
    obtain ⟨c, ds, hds, hc⟩ := exists_cons_attributes attributes
      (encodeReferences (text.getD "").toList ++ '<' :: cs)
    rw [hds] at hattributes
    have hopen := (scans_opening own.name hc ds).trans hattributes
    rw [← hds, ← hcs] at hopen
    simpa [Node.printed, Node.tokens] using hopen

end Markup

end SceneScript
