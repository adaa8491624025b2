import SceneScript.Proofs.Markup.Blocks
import SceneScript.Proofs.Markup.Grammar
/-!
# Markup — reading by descent

The other way to read a document: a cursor goes over the tokens, an element is read
by a call that reads its children by calls of its own, and the calls hold the open
elements that a reading has on its stack. This way has branches that a reading has
not: a call can stand where no tag opens, and a closing tag that does not match is
placed by looking at the token before the cursor.

Both ways are the same for every list of tokens (`descend_eq`). The branches that
only the descent has are never taken, and of those that both have, a source never
takes the ones for a token that is out of place (`descend_of_tokenize`).
-/

namespace SceneScript

namespace Markup

namespace Descent

/-- Why a descent stops. -/
inductive Stop where
  /-- The document is rejected. -/
  | refused (error : ParseError)
  /-- No tag opens where an element is read. -/
  | noOpening (found : Token) (position : Position)
  /-- A token outside the list is looked at. -/
  | outside
  /-- The bound on the number of calls is reached. -/
  | spent
deriving DecidableEq, Repr

/-! ## The cursor -/

section

variable (tokens : List Placed)

/-- The token at a cursor; behind the last token there is the end of the source. -/
def peek (i : Nat) : Token :=
  (tokens[i]?.map (·.token)).getD .eof

/-- The place of the token at a cursor, or of the last one. -/
def place (i : Nat) : Position :=
  ((tokens[i]?.or tokens.getLast?).map (·.position)).getD .start

/-- The cursor one token on, as far as there are tokens. -/
def advance (i : Nat) : Nat :=
  if i < tokens.length then i + 1 else i

/-- The token before a cursor. -/
def previous? : Nat → Option Placed
  | 0 => none
  | i + 1 => tokens[i]?

/-! ## The descent -/

mutual

/-- The element whose tag opens at the cursor, and the cursor behind it. -/
def element : Nat → Nat → Except Stop (Node × Nat)
  | 0, _ => .error .spent
  | fuel + 1, i =>
    match peek tokens i with
    | .tagOpen name => tag fuel { name, position := place tokens i } (advance tokens i)
    | found => .error (.noOpening found (place tokens (advance tokens i)))

/-- The rest of an element from inside its tag on. -/
def tag : Nat → Node → Nat → Except Stop (Node × Nat)
  | 0, _, _ => .error .spent
  | fuel + 1, node, i =>
    match peek tokens i with
    | .attr name value =>
      if node.hasAttr name then
        .error (.refused { fault := .repeatedAttribute name node.name,
                           position := place tokens (advance tokens i) })
      else tag fuel (node.addAttr name value) (advance tokens i)
    | .selfClose => .ok (node, advance tokens i)
    | .tagEnd => content fuel node (advance tokens i)
    | found =>
      .error (.refused { fault := .insideTag found node.name, position := place tokens i })

/-- The rest of an element from inside its content on. -/
def content : Nat → Node → Nat → Except Stop (Node × Nat)
  | 0, _, _ => .error .spent
  | fuel + 1, node, i =>
    match peek tokens i with
    | .text t => content fuel (node.addText t) (advance tokens i)
    | .tagOpen _ => do
      let (child, j) ← element fuel i
      content fuel (node.addChild child) j
    | .closeTag name =>
      if name = node.name then .ok (node, advance tokens i)
      else
        match previous? tokens (advance tokens i) with
        | some found =>
          .error (.refused { fault := .mismatchedCloseTag name node.name,
                             position := found.position })
        | none => .error .outside
    | .eof =>
      .error (.refused { fault := .unclosedElement node.name, position := node.position })
    | found => .error (.refused { fault := .inContent found, position := place tokens i })

end

/-- The cursor behind blank text. -/
def blanks : Nat → Nat → Except Stop Nat
  | 0, _ => .error .spent
  | fuel + 1, i =>
    match peek tokens i with
    | .text t =>
      if Text.isBlankText t then blanks fuel (advance tokens i)
      else .error (.refused { fault := .textOutsideRoot, position := place tokens i })
    | _ => .ok i

/-- The root element, from the first token on. -/
def document (fuel : Nat) : Except Stop Node := do
  let i ← blanks tokens fuel 0
  match peek tokens i with
  | .tagOpen _ =>
    let (root, i) ← element tokens fuel i
    let i ← blanks tokens fuel i
    match peek tokens i with
    | .eof => .ok root
    | found => .error (.refused { fault := .afterRoot found, position := place tokens i })
  | _ => .error (.refused { fault := .expectedRoot, position := place tokens i })

/-- The root element that a list of tokens describes, read by descent. Each token is
met by two calls at most. -/
def descend : Except Stop Node :=
  document tokens (2 * tokens.length + 2)

end

/-! ## A reading at a cursor -/

section

variable {tokens : List Placed} {reading reading' : Reading} {i j : Nat}

/-- What a reading gives from a cursor on. -/
def readFrom (tokens : List Placed) (reading : Reading) (i : Nat) : Except ParseError Node :=
  reading.run ((tokens.getLast?.map (·.position)).getD .start) (tokens.drop i)

theorem readFrom_zero : readFrom tokens .before 0 = parseTokens tokens :=
  rfl

/-- Where a token other than the end is at the cursor, there is a token. -/
theorem lt_of_peek {token : Token} (h : peek tokens i = token) (hne : token ≠ .eof) :
    i < tokens.length := by
  by_contra hout
  rw [peek, List.getElem?_eq_none (Nat.le_of_not_lt hout)] at h
  exact hne h.symm

theorem advance_eq (h : i < tokens.length) : advance tokens i = i + 1 := by
  rw [advance, if_pos h]

theorem getElem_eq (h : i < tokens.length) : tokens[i] = ⟨peek tokens i, place tokens i⟩ := by
  rw [peek, place, List.getElem?_eq_getElem h]
  rfl

/-- The token that the cursor has gone over stands before it. -/
theorem previous?_advance (h : i < tokens.length) :
    previous? tokens (advance tokens i) = some ⟨peek tokens i, place tokens i⟩ := by
  rw [advance_eq h, previous?, List.getElem?_eq_getElem h, getElem_eq h]

theorem readFrom_of_eof (h : peek tokens i = .eof) :
    readFrom tokens reading i = reading.finish (place tokens i) := by
  rw [readFrom]
  by_cases hi : i < tokens.length
  · rw [List.drop_eq_getElem_cons hi, getElem_eq hi, Reading.run, if_pos h]
  · have hout := Nat.le_of_not_lt hi
    rw [List.drop_eq_nil_of_le hout, Reading.run, place, List.getElem?_eq_none hout,
      Option.none_or]

/-- **A reading goes on at the cursor** as it takes the token there. -/
theorem readFrom_eq (reading : Reading) {token : Token} (h : peek tokens i = token)
    (hne : token ≠ .eof) :
    readFrom tokens reading i =
      match reading.take (place tokens (i + 1)) ⟨token, place tokens i⟩ with
      | .ok reading' => readFrom tokens reading' (i + 1)
      | .error e => .error e := by
  have hi := lt_of_peek h hne
  have hnext : ((tokens.drop (i + 1)).head?.map (·.position)).getD
      ((tokens.getLast?.map (·.position)).getD .start) = place tokens (i + 1) := by
    rw [place, List.head?_drop]
    cases tokens[i + 1]? <;> rfl
  rw [readFrom, List.drop_eq_getElem_cons hi, getElem_eq hi, h, Reading.run, if_neg hne, hnext]
  rfl

/-! ## Calls that agree with a reading -/

/-- What a call gives agrees with what a reading has found: it is as it should be, or
both reject the document alike. No other stop agrees with anything. -/
def Agrees {α : Type} (found : Except ParseError Node) (post : α → Prop) : Except Stop α → Prop
  | .ok a => post a
  | .error (.refused e) => found = .error e
  | .error _ => False

namespace Agrees

variable {α β : Type} {found : Except ParseError Node} {post : α → Prop} {result : Except Stop α}

theorem imp {post' : α → Prop} (h : Agrees found post result) (himp : ∀ a, post a → post' a) :
    Agrees found post' result := by
  match result, h with
  | .ok a, h => exact himp a h
  | .error (.refused e), h => exact h

/-- Calls one after the other. -/
theorem bind {post' : β → Prop} {f : α → Except Stop β} (h : Agrees found post result)
    (hf : ∀ a, post a → Agrees found post' (f a)) : Agrees found post' (result >>= f) := by
  match result, h with
  | .ok a, h => exact hf a h
  | .error (.refused e), h => exact h

end Agrees

/-- A call for an element agrees with a reading from the same cursor on: the reading
goes on where the call leaves the cursor, which has moved, with the element closed
among the outer ones. -/
def ClosesAs (tokens : List Placed) (reading : Reading) (outer : List Node) (i : Nat) :
    Except Stop (Node × Nat) → Prop :=
  Agrees (readFrom tokens reading i) fun closed =>
    i < closed.2 ∧ readFrom tokens reading i = readFrom tokens (.close closed.1 outer) closed.2

/-- A call that goes on at a later cursor agrees when the reading goes on there too. -/
theorem ClosesAs.step {outer : List Node} {result : Except Stop (Node × Nat)}
    (h : ClosesAs tokens reading' outer j result)
    (hread : readFrom tokens reading i = readFrom tokens reading' j) (hlt : i < j) :
    ClosesAs tokens reading outer i result := by
  rw [ClosesAs, hread]
  exact h.imp fun closed hclosed => ⟨hlt.trans hclosed.1, hclosed.2⟩

mutual

/-- **A call for an element agrees with the reading** that may take its opening tag. -/
theorem agrees_element (fuel : Nat) {reading : Reading} {outer : List Node} {i : Nat}
    {name : String} (hpeek : peek tokens i = .tagOpen name) (hroom : reading.RoomFor outer)
    (hfuel : 2 * (tokens.length - i) + 1 ≤ fuel) :
    ClosesAs tokens reading outer i (element tokens fuel i) := by
  match fuel with
  | fuel + 1 =>
    have hi := lt_of_peek hpeek (by simp)
    have hread : readFrom tokens reading i =
        readFrom tokens (.inTag { name, position := place tokens i } outer) (i + 1) := by
      have hopen := hroom ⟨.tagOpen name, place tokens i⟩ name rfl
        ((tokens.getLast?.map (·.position)).getD .start) (tokens.drop (i + 1))
      rw [readFrom, List.drop_eq_getElem_cons hi, getElem_eq hi, hpeek]
      exact hopen
    rw [element, hpeek, advance_eq hi]
    exact (agrees_tag fuel _ outer (i + 1) (by omega)).step hread i.lt_succ_self

/-- Inside a tag. -/
theorem agrees_tag (fuel : Nat) (node : Node) (outer : List Node) (i : Nat)
    (hfuel : 2 * (tokens.length - i) + 2 ≤ fuel) :
    ClosesAs tokens (.inTag node outer) outer i (tag tokens fuel node i) := by
  match fuel with
  | fuel + 1 =>
    rw [tag]
    cases hpeek : peek tokens i with
    | attr name value =>
      have hi := lt_of_peek hpeek (by simp)
      have hread := readFrom_eq (.inTag node outer) hpeek (by simp)
      dsimp only [Reading.take] at hread ⊢
      rw [advance_eq hi]
      by_cases hhas : node.hasAttr name = true
      · rw [if_pos hhas] at hread ⊢
        exact hread
      · rw [if_neg hhas] at hread ⊢
        exact (agrees_tag fuel _ outer (i + 1) (by omega)).step hread i.lt_succ_self
    | selfClose =>
      have hi := lt_of_peek hpeek (by simp)
      rw [advance_eq hi]
      exact ⟨by omega, readFrom_eq _ hpeek (by simp)⟩
    | tagEnd =>
      have hi := lt_of_peek hpeek (by simp)
      rw [advance_eq hi]
      exact (agrees_content fuel node outer (i + 1) (by omega)).step (readFrom_eq _ hpeek (by simp))
        i.lt_succ_self
    | eof => exact readFrom_of_eof hpeek
    | _ => exact readFrom_eq _ hpeek (by simp)

/-- Inside content. -/
theorem agrees_content (fuel : Nat) (node : Node) (outer : List Node) (i : Nat)
    (hfuel : 2 * (tokens.length - i) + 2 ≤ fuel) :
    ClosesAs tokens (.inContent node outer) outer i (content tokens fuel node i) := by
  match fuel with
  | fuel + 1 =>
    rw [content]
    cases hpeek : peek tokens i with
    | text t =>
      have hi := lt_of_peek hpeek (by simp)
      rw [advance_eq hi]
      exact (agrees_content fuel _ outer (i + 1) (by omega)).step (readFrom_eq _ hpeek (by simp))
        i.lt_succ_self
    | tagOpen name =>
      have hi := lt_of_peek hpeek (by simp)
      -- a child leaves the cursor where it is at first, so a token may be met by two calls
      have hbound : 2 * (tokens.length - i) + 1 ≤ fuel := by omega
      have hchild := agrees_element fuel hpeek (Reading.roomFor_inContent node outer) hbound
      refine Agrees.bind hchild fun closed hclosed => ?_
      obtain ⟨hlt, hread⟩ := hclosed
      exact (agrees_content fuel _ outer closed.2 (by omega)).step hread hlt
    | closeTag name =>
      have hi := lt_of_peek hpeek (by simp)
      have hread := readFrom_eq (.inContent node outer) hpeek (by simp)
      dsimp only [Reading.take] at hread ⊢
      by_cases hname : name = node.name
      · rw [if_pos hname] at hread ⊢
        rw [advance_eq hi]
        exact ⟨by omega, hread⟩
      · rw [if_neg hname] at hread ⊢
        rw [previous?_advance hi]
        exact hread
    | eof => exact readFrom_of_eof hpeek
    | _ => exact readFrom_eq _ hpeek (by simp)

end

/-- Outside the root element, blank text leaves a reading as it is and no other text is
taken. -/
def Skips (reading : Reading) : Prop :=
  ∀ next t p, reading.take next ⟨.text t, p⟩ =
    if Text.isBlankText t then .ok reading
    else .error { fault := .textOutsideRoot, position := p }

theorem agrees_blanks (fuel : Nat) (hskips : Skips reading) (i : Nat)
    (hfuel : tokens.length - i + 1 ≤ fuel) :
    Agrees (readFrom tokens reading i)
      (fun j => i ≤ j ∧ (∀ t, peek tokens j ≠ .text t) ∧
        readFrom tokens reading i = readFrom tokens reading j)
      (blanks tokens fuel i) := by
  induction fuel generalizing i with
  | zero => omega
  | succ fuel ih =>
    rw [blanks]
    cases hpeek : peek tokens i with
    | text t =>
      have hi := lt_of_peek hpeek (by simp)
      have hread := readFrom_eq reading hpeek (by simp)
      dsimp only
      rw [hskips] at hread
      rw [advance_eq hi]
      by_cases hblank : Text.isBlankText t = true
      · rw [if_pos hblank] at hread ⊢
        rw [hread]
        refine (ih (i + 1) (by omega)).imp fun j hj => ⟨by omega, hj.2⟩
      · rw [if_neg hblank] at hread ⊢
        exact hread
    | _ => exact ⟨le_rfl, by simp [hpeek], rfl⟩

/-- **The descent agrees with the reading of all tokens.** -/
theorem agrees_descend (tokens : List Placed) :
    Agrees (parseTokens tokens) (fun root => parseTokens tokens = .ok root) (descend tokens) := by
  rw [← readFrom_zero]
  refine (agrees_blanks _ (fun _ _ _ => rfl) 0 (by omega)).bind fun i ⟨_, htext, hread⟩ => ?_
  rw [hread]
  -- blank text is gone over, so a text here is one that both have rejected
  cases hpeek : peek tokens i with
  | tagOpen name =>
    have hroot := agrees_element (2 * tokens.length + 2) hpeek Reading.roomFor_before (by omega)
    refine Agrees.bind hroot fun closed hclosed => ?_
    obtain ⟨root, j⟩ := closed
    rw [hclosed.2]
    refine (agrees_blanks _ (fun _ _ _ => rfl) j (by omega)).bind fun k ⟨_, htext, hread⟩ => ?_
    dsimp only [Reading.close] at hread ⊢
    rw [hread]
    cases hpeek : peek tokens k with
    | text t => exact absurd hpeek (htext t)
    | eof => exact readFrom_of_eof hpeek
    | _ => exact readFrom_eq _ hpeek (by simp)
  | text t => exact absurd hpeek (htext t)
  | eof => exact readFrom_of_eof hpeek
  | _ => exact readFrom_eq _ hpeek (by simp)

/-- **Descending is reading**: every list of tokens has the same root element or is
rejected with the same error, and nothing else stops a descent. -/
theorem descend_eq (tokens : List Placed) :
    descend tokens = (parseTokens tokens).mapError .refused := by
  have hagrees := agrees_descend tokens
  match descend tokens, hagrees with
  | .ok root, hagrees =>
    rw [hagrees]
    rfl
  | .error (.refused e), hagrees =>
    rw [hagrees]
    rfl

end

/-! ## The tokens of a source -/

/-- **The tokens of a source are well shaped**: they are blocks up to one end, and
their names are names. So reading them by descent is reading the source, and it stops
for no reason but a rejection that is not for a token out of place: no element is read
where no tag opens, and no token outside the list is looked at. -/
theorem descend_of_tokenize {source : String} {tokens : List Placed}
    (h : tokenize source = .ok tokens) :
    Blocks (tokens.map (·.token)) ∧ (∀ token ∈ tokens, token.token.Named) ∧
      descend tokens = (parse source).mapError .refused ∧
      ∀ stop, descend tokens = .error stop → ∃ e, stop = .refused e ∧ ¬e.fault.Stray := by
  have hshaped : Shaped (Reading.mode .before) (tokens.map (·.token)) :=
    (tokenize_eq_ok_iff.1 h).shaped
  have hparse : parse source = parseTokens tokens := by
    rw [parse, h]
    rfl
  refine ⟨hshaped, named_of_scan h, by rw [hparse, descend_eq], fun stop hstop => ?_⟩
  rw [descend_eq] at hstop
  cases hread : parseTokens tokens with
  | ok root =>
    rw [hread] at hstop
    cases hstop
  | error e =>
    rw [hread] at hstop
    cases hstop
    exact ⟨e, rfl, Reading.not_stray_of_run hshaped hread⟩

/-- A source in which a closing tag does not match. -/
def crossed : String := "<a x='1'>t<b/></c>"

/-- Its tokens are blocks, and the token before the cursor gives the place of the error. -/
theorem descend_of_tokenize_crossed :
    ∃ tokens, tokenize crossed = .ok tokens ∧
      tokens.map (·.token) = [.tagOpen "a", .attr "x" "1", .tagEnd, .text "t", .tagOpen "b",
        .selfClose, .closeTag "c", .eof] ∧
      Blocks (tokens.map (·.token)) ∧
      descend tokens = .error (.refused { fault := .mismatchedCloseTag "c" "a",
                                          position := ⟨1, 15⟩ }) := by
  have htokens : tokenize crossed = .ok [⟨.tagOpen "a", ⟨1, 1⟩⟩, ⟨.attr "x" "1", ⟨1, 4⟩⟩,
      ⟨.tagEnd, ⟨1, 9⟩⟩, ⟨.text "t", ⟨1, 10⟩⟩, ⟨.tagOpen "b", ⟨1, 11⟩⟩, ⟨.selfClose, ⟨1, 13⟩⟩,
      ⟨.closeTag "c", ⟨1, 15⟩⟩, ⟨.eof, ⟨1, 19⟩⟩] := by decide +kernel
  obtain ⟨hblocks, -, -, -⟩ := descend_of_tokenize htokens
  exact ⟨_, htokens, rfl, hblocks, rfl⟩

end Descent

end Markup

end SceneScript
