import SceneScript.Markup.Parse
import SceneScript.Proofs.Text.Trim
/-!
# Markup — stretches of a source as tokens

`Scans mode cs tokens mode' rest` says that a source begins, in a mode, with
these tokens, and what is left after them. Positions are no part of it: they
follow from the characters. A name ends where a character comes that no name
holds, a value where its quote comes, and text where a tag opens.
-/

namespace SceneScript

namespace Markup

variable {mode mode' mode'' : Mode} {cs rest rest' : List Char} {tokens tokens' : List Token}

/-- The tokens at the head of a source, and what follows them. -/
inductive Scans : Mode → List Char → List Token → Mode → List Char → Prop
  /-- Nothing is read. -/
  | refl {mode : Mode} {cs : List Char} : Scans mode cs [] mode cs
  /-- A token, and what follows it. -/
  | emit {mode mode' mode'' : Mode} {token : Token} {cs read rest rest' : List Char}
      {tokens : List Token} :
      step mode cs = .emit token mode' read rest → Scans mode' rest tokens mode'' rest' →
      Scans mode cs (token :: tokens) mode'' rest'
  /-- Characters that make no token, and what follows them. -/
  | skip {mode mode' : Mode} {cs read rest rest' : List Char} {tokens : List Token} :
      step mode cs = .skip read rest → Scans mode rest tokens mode' rest' →
      Scans mode cs tokens mode' rest'

theorem Scans.trans (h : Scans mode cs tokens mode' rest)
    (h' : Scans mode' rest tokens' mode'' rest') :
    Scans mode cs (tokens ++ tokens') mode'' rest' := by
  induction h with
  | refl => exact h'
  | emit hstep _ ih => exact .emit hstep (ih h')
  | skip hstep _ ih => exact .skip hstep (ih h')

/-- One token. -/
theorem Scans.one {token : Token} {read : List Char}
    (h : step mode cs = .emit token mode' read rest) :
    Scans mode cs [token] mode' rest :=
  .emit h .refl

theorem scan_of_emit {token : Token} {read : List Char} (p : Position)
    (h : step mode cs = .emit token mode' read rest) :
    scan mode p cs = (scan mode' (p.after read) rest).map (⟨token, p⟩ :: ·) := by
  rw [scan]
  split <;> simp_all

theorem scan_of_skip {read : List Char} (p : Position) (h : step mode cs = .skip read rest) :
    scan mode p cs = scan mode (p.after read) rest := by
  rw [scan]
  split <;> simp_all

/-- **Scanning goes through a stretch**: its tokens, each at some place, come
before those of what is left. -/
theorem Scans.scan_eq (h : Scans mode cs tokens mode' rest) (p : Position) :
    ∃ (placed : List Placed) (p' : Position), placed.map (·.token) = tokens ∧
      scan mode p cs = (scan mode' p' rest).map (placed ++ ·) := by
  induction h generalizing p with
  | refl =>
    refine ⟨[], p, rfl, ?_⟩
    cases scan _ p _ <;> rfl
  | @emit _ _ _ token _ read _ _ _ hstep _ ih =>
    obtain ⟨placed, p', htokens, hscan⟩ := ih (p.after read)
    refine ⟨⟨token, p⟩ :: placed, p', by simp [htokens], ?_⟩
    rw [scan_of_emit p hstep, hscan]
    cases scan _ p' _ <;> rfl
  | @skip _ _ _ read _ _ _ hstep _ ih =>
    obtain ⟨placed, p', htokens, hscan⟩ := ih (p.after read)
    exact ⟨placed, p', htokens, (scan_of_skip p hstep).trans hscan⟩

/-! ## Names -/

/-- No blank starts a name. -/
theorem isBlank_of_isNameStart {c : Char} (h : isNameStart c = true) : Text.isBlank c = false := by
  by_contra hblank
  rw [Bool.not_eq_false] at hblank
  have hletter := Text.isAlphabetic_of_isBlank hblank
  have hunder : c ≠ '_' := by
    rintro rfl
    exact absurd hblank (by decide)
  have hcolon : c ≠ ':' := by
    rintro rfl
    exact absurd hblank (by decide)
  simp [isNameStart, hletter, hunder, hcolon] at h

/-- A character that starts a name is none of those that do not. -/
theorem ne_of_isNameStart {c d : Char} (hc : isNameStart c = true) (hd : isNameStart d = false) :
    c ≠ d := by
  rintro rfl
  rw [hc] at hd
  cases hd

/-- A name has a first character. -/
theorem exists_cons_of_isName {name : List Char} (h : isName name = true) :
    ∃ c cs, name = c :: cs ∧ isNameStart c = true := by
  cases name with
  | nil => cases h
  | cons c cs =>
    rw [isName, Bool.and_eq_true] at h
    exact ⟨c, cs, rfl, h.1⟩

/-- All characters of a name can stand in one. -/
theorem isNameChar_of_mem {name : List Char} (h : isName name = true) :
    ∀ c ∈ name, isNameChar c = true := by
  obtain ⟨c, cs, rfl, hstart⟩ := exists_cons_of_isName h
  rw [isName, Bool.and_eq_true, List.all_eq_true] at h
  intro d hd
  rcases List.mem_cons.1 hd with rfl | hd
  · exact isNameChar_of_isNameStart hstart
  · exact h.2 d hd

theorem startsName_append {name : List Char} (h : isName name = true) (rest : List Char) :
    startsName (name ++ rest) = true := by
  obtain ⟨c, cs, rfl, hstart⟩ := exists_cons_of_isName h
  exact hstart

/-- **A name ends where a character comes that no name holds.** -/
theorem splitName_append {name : List Char} {c : Char} (h : isName name = true)
    (hc : isNameChar c = false) (rest : List Char) :
    splitName (name ++ c :: rest) = (name, c :: rest) := by
  have hall := isNameChar_of_mem h
  rw [splitName, List.takeWhile_append_of_pos hall, List.dropWhile_append_of_pos hall]
  simp [hc]

/-- What a name is split off from starts with it. -/
theorem isName_splitName (h : startsName cs = true) : isName (splitName cs).1 = true := by
  cases cs with
  | nil => cases h
  | cons c cs =>
    have hstart : isNameStart c = true := h
    rw [splitName, List.takeWhile_cons_of_pos (isNameChar_of_isNameStart hstart), isName, hstart,
      Bool.true_and]
    exact List.all_takeWhile

/-! ## Pieces of content -/

/-- What follows an angle and starts a name is a tag that opens. -/
theorem contentStep_of_startsName (h : startsName cs = true) :
    contentStep ('<' :: cs) = opening cs := by
  cases cs with
  | nil => cases h
  | cons c cs =>
    have hstart : isNameStart c = true := h
    have hbang : c ≠ '!' := ne_of_isNameStart hstart (by decide)
    have hquestion : c ≠ '?' := ne_of_isNameStart hstart (by decide)
    have hslash : c ≠ '/' := ne_of_isNameStart hstart (by decide)
    unfold contentStep
    split <;> simp_all

/-- A tag that opens. -/
theorem scans_opening {name : List Char} {c : Char} (h : isName name = true)
    (hc : isNameChar c = false) (rest : List Char) :
    Scans .content ('<' :: (name ++ c :: rest)) [.tagOpen (String.ofList name)] .tag
      (c :: rest) := by
  have hstarts := startsName_append h (c :: rest)
  have hstep : step .content ('<' :: (name ++ c :: rest)) =
      .emit (.tagOpen (String.ofList name)) .tag ('<' :: name) (c :: rest) := by
    rw [step, contentStep_of_startsName hstarts, opening, if_pos hstarts, splitName_append h hc]
  exact .one hstep

/-- A closing tag. -/
theorem scans_closing {name : List Char} (h : isName name = true) (rest : List Char) :
    Scans .content ('<' :: '/' :: (name ++ '>' :: rest)) [.closeTag (String.ofList name)] .content
      rest := by
  have hangle : isNameChar '>' = false := by decide
  have hblank : Text.isBlank '>' = false := by decide
  have hstep : step .content ('<' :: '/' :: (name ++ '>' :: rest)) =
      .emit (.closeTag (String.ofList name)) .content ('<' :: '/' :: (name ++ ['>'])) rest := by
    rw [step, contentStep, closing, if_pos (startsName_append h _), splitName_append h hangle]
    simp [hblank]
  exact .one hstep

/-- Text up to the next tag. -/
theorem scans_text {raw content : List Char} (hne : raw ≠ []) (hraw : ∀ c ∈ raw, c ≠ '<')
    (hdecode : decodeReferences raw = .ok content) (rest : List Char) :
    Scans .content (raw ++ '<' :: rest) [.text (String.ofList content)] .content
      ('<' :: rest) := by
  have hcontent : contentStep (raw ++ '<' :: rest) = characters (raw ++ '<' :: rest) := by
    obtain ⟨c, cs, rfl⟩ := List.exists_cons_of_ne_nil hne
    have hc : c ≠ '<' := hraw c List.mem_cons_self
    rw [List.cons_append]
    unfold contentStep
    split <;> simp_all
  have hall : ∀ c ∈ raw, decide (c ≠ '<') = true := fun c hc => decide_eq_true (hraw c hc)
  have hstep : step .content (raw ++ '<' :: rest) =
      .emit (.text (String.ofList content)) .content raw ('<' :: rest) := by
    rw [step, hcontent, characters, List.takeWhile_append_of_pos hall,
      List.dropWhile_append_of_pos hall]
    simp [hdecode]
  exact .one hstep

/-! ## Pieces inside a tag -/

/-- The end of a tag. -/
theorem scans_tagEnd (rest : List Char) : Scans .tag ('>' :: rest) [.tagEnd] .content rest :=
  .one rfl

/-- A space before something that is not blank. -/
theorem scans_space {c : Char} (hc : Text.isBlank c = false)
    (h : Scans .tag (c :: cs) tokens mode rest) : Scans .tag (' ' :: c :: cs) tokens mode rest := by
  have hspace : Text.isBlank ' ' = true := by decide
  have hstep : step .tag (' ' :: c :: cs) = .skip [' '] (c :: cs) := by
    simp [step, tagStep, hspace, hc]
  exact .skip hstep h

/-- What starts a name starts an attribute. -/
theorem tagStep_of_startsName (h : startsName cs = true) : tagStep cs = attrStep cs := by
  cases cs with
  | nil => cases h
  | cons c cs =>
    have hstart : isNameStart c = true := h
    have hblank := isBlank_of_isNameStart hstart
    have hangle : c ≠ '>' := ne_of_isNameStart hstart (by decide)
    have hslash : c ≠ '/' := ne_of_isNameStart hstart (by decide)
    unfold tagStep
    split <;> simp_all

/-- A value ends at its quote. -/
theorem attributeValue_append {raw value : List Char} (name read : List Char)
    (hraw : ∀ c ∈ raw, c ≠ '\x22' ∧ c ≠ '<') (hdecode : decodeReferences raw = .ok value)
    (rest : List Char) :
    attributeValue name read '\x22' (raw ++ '\x22' :: rest) =
      .emit (.attr (String.ofList name) (String.ofList value)) .tag (read ++ raw ++ ['\x22'])
        rest := by
  have hall : ∀ c ∈ raw, (decide (c ≠ '\x22') && decide (c ≠ '<')) = true := by
    intro c hc
    simp [hraw c hc]
  rw [attributeValue, List.takeWhile_append_of_pos hall, List.dropWhile_append_of_pos hall]
  simp [hdecode]

/-- An attribute between double quotes, with nothing around its equals sign. -/
theorem scans_attr {name raw value : List Char} (h : isName name = true)
    (hraw : ∀ c ∈ raw, c ≠ '\x22' ∧ c ≠ '<') (hdecode : decodeReferences raw = .ok value)
    (rest : List Char) :
    Scans .tag (name ++ '=' :: '\x22' :: (raw ++ '\x22' :: rest))
      [.attr (String.ofList name) (String.ofList value)] .tag rest := by
  have hequals : isNameChar '=' = false := by decide
  have hblank : Text.isBlank '=' = false := by decide
  have hquote : Text.isBlank '\x22' = false := by decide
  have hattr : attrStep (name ++ '=' :: '\x22' :: (raw ++ '\x22' :: rest)) =
      attributeValue name (name ++ ['=', '\x22']) '\x22' (raw ++ '\x22' :: rest) := by
    rw [attrStep, splitName_append h hequals]
    simp [hblank, hquote]
  have hstep := hattr.trans (attributeValue_append name _ hraw hdecode rest)
  rw [← tagStep_of_startsName (startsName_append h _)] at hstep
  exact .one hstep

/-! ## Every token is named -/

/-- The name in a token, where it has one, is a name. -/
def Token.Named : Token → Prop
  | .tagOpen name => isName name.toList = true
  | .attr name _ => isName name.toList = true
  | .closeTag name => isName name.toList = true
  | .tagEnd | .selfClose | .text _ | .eof => True

/-- The token of a step, where it has one, is named. -/
def Step.Named : Step → Prop
  | .emit token _ _ _ => token.Named
  | .skip _ _ | .done | .fail _ _ => True

theorem skipPassage_named (passage : Passage) (opening closing cs : List Char) :
    (skipPassage passage opening closing cs).Named := by
  unfold skipPassage
  split <;> trivial

theorem literal_named (cs : List Char) : (literal cs).Named := by
  unfold literal
  split <;> trivial

theorem closing_named (cs : List Char) : (closing cs).Named := by
  unfold closing
  split
  next h =>
    dsimp only
    split
    next => simpa [Step.Named, Token.Named] using isName_splitName h
    next => trivial
  next => trivial

theorem opening_named (cs : List Char) : (opening cs).Named := by
  unfold opening
  split
  next h => simpa [Step.Named, Token.Named] using isName_splitName h
  next => trivial

theorem characters_named (cs : List Char) : (characters cs).Named := by
  unfold characters
  dsimp only
  split <;> trivial

theorem contentStep_named (cs : List Char) : (contentStep cs).Named := by
  unfold contentStep
  split
  next => trivial
  next => exact skipPassage_named ..
  next => exact skipPassage_named ..
  next cs => exact literal_named cs
  next => exact skipPassage_named ..
  next cs => exact closing_named cs
  next cs _ _ _ _ _ => exact opening_named cs
  next => exact characters_named cs

theorem attributeValue_named {name : List Char} (h : isName name = true) (read : List Char)
    (quote : Char) (cs : List Char) : (attributeValue name read quote cs).Named := by
  unfold attributeValue
  dsimp only
  split
  next => trivial
  next =>
    split
    next =>
      split
      next => simpa [Step.Named, Token.Named] using h
      next => trivial
    next => trivial

theorem attrStep_named (h : startsName cs = true) : (attrStep cs).Named := by
  have hname := isName_splitName h
  unfold attrStep
  dsimp only
  split
  next =>
    split
    next =>
      split
      next => exact attributeValue_named hname ..
      next => trivial
    next => trivial
  next => trivial

theorem tagStep_named (cs : List Char) : (tagStep cs).Named := by
  unfold tagStep
  split
  next => trivial
  next => trivial
  next => trivial
  next => trivial
  next =>
    split
    next => trivial
    next =>
      split
      next hstart => exact attrStep_named hstart
      next => trivial

theorem step_named (mode : Mode) (cs : List Char) : (step mode cs).Named := by
  cases mode
  · exact contentStep_named cs
  · exact tagStep_named cs

/-- **Every token of a source is named.** -/
theorem named_of_scan {p : Position} {placed : List Placed} (h : scan mode p cs = .ok placed) :
    ∀ token ∈ placed, token.token.Named := by
  fun_induction scan mode p cs generalizing placed with
  | case1 =>
    cases h
    simp [Token.Named]
  | case2 => cases h
  | case3 _ _ _ _ _ _ ih => exact ih h
  | case4 mode p cs token mode' read rest hstep ih =>
    have hnamed := step_named mode cs
    rw [hstep] at hnamed
    cases hrest : scan mode' (p.after read) rest with
    | error e =>
      rw [hrest] at h
      cases h
    | ok following =>
      rw [hrest] at h
      cases h
      intro t ht
      rcases List.mem_cons.1 ht with rfl | ht
      · exact hnamed
      · exact ih hrest t ht

end Markup

end SceneScript
