import SceneScript.Proofs.Markup.Places
import SceneScript.Proofs.Markup.Scans
/-!
# Markup — how a source is spelled

What a source consists of, said without the steps that read it: `Spells` is a
token with the characters it is written with, `Passes` a stretch that makes no
token, and `Laid` a whole source, cut into the two, with each token at the place
where its own characters start.

A step reads just what is spelled (`step_eq_emit_iff`, `step_eq_skip_iff`), so a
source has the tokens it is laid out as (`scan_eq_ok_iff`): where they stand, how
they follow each other and what they are written as can be read off that.
-/

namespace SceneScript

namespace Markup

variable {mode mode' : Mode} {cs rest read before after : List Char} {token : Token}
  {placed : List Placed}

/-! ## What ends a stretch -/

/-- A mark closes what stands before it: it occurs once, at the end. -/
def Closes (mark body : List Char) : Prop :=
  ∀ ahead behind, body ++ mark = ahead ++ (mark ++ behind) → behind = []

/-- What follows is no part of a name. -/
def EndsName (rest : List Char) : Prop :=
  ∀ c ∈ rest.head?, isNameChar c = false

/-- What follows is nothing, or opens with an angle. -/
def Fresh (rest : List Char) : Prop :=
  ∀ c ∈ rest.head?, c = '<'

theorem closes_nil {mark : List Char} : Closes mark [] := by
  intro ahead behind h
  have hlength := congrArg List.length h
  simp only [List.nil_append, List.length_append] at hlength
  exact List.eq_nil_of_length_eq_zero (by omega)

/-- A mark that closes something does not start before it. -/
theorem Closes.not_prefix {mark body : List Char} {c : Char} (h : Closes mark (c :: body))
    (rest : List Char) : ¬ mark <+: c :: (body ++ (mark ++ rest)) := by
  intro hbegins
  have hwhole : c :: body ++ mark <+: c :: (body ++ (mark ++ rest)) := ⟨rest, by simp⟩
  obtain ⟨behind, hbehind⟩ := List.prefix_of_prefix_length_le hbegins hwhole (by simp; omega)
  obtain rfl := h [] behind hbehind.symm
  have hlength := congrArg List.length hbehind
  simp only [List.length_append, List.length_cons, List.length_nil] at hlength
  omega

/-- **A text is split at a mark** where the mark closes what stands before it. -/
theorem splitAt?_eq_some_iff {mark body : List Char} (hmark : mark ≠ []) :
    splitAt? mark cs = some (body, rest) ↔ cs = body ++ (mark ++ rest) ∧ Closes mark body := by
  constructor
  · intro h
    refine ⟨(append_of_splitAt? h).symm, ?_⟩
    induction cs generalizing body with
    | nil => simp [splitAt?, hmark] at h
    | cons c cs ih =>
      rw [splitAt?] at h
      split at h
      next => simp_all [closes_nil]
      next hbegins =>
        obtain ⟨⟨body, rest⟩, hsplit, heq⟩ := Option.map_eq_some_iff.1 h
        cases heq
        intro ahead behind heq
        cases ahead with
        | nil =>
          -- then the mark would start where the text was not split
          rw [List.isPrefixOf_iff_prefix, ← append_of_splitAt? hsplit] at hbegins
          refine absurd ⟨behind ++ rest, ?_⟩ hbegins
          have happend := congrArg (· ++ rest) heq
          simpa using happend.symm
        | cons d ahead =>
          rw [List.cons_append, List.cons_append, List.cons.injEq] at heq
          exact ih hsplit ahead behind heq.2
  · rintro ⟨rfl, hcloses⟩
    induction body with
    | nil =>
      obtain ⟨c, mark, rfl⟩ := List.exists_cons_of_ne_nil hmark
      rw [List.nil_append, List.cons_append, splitAt?, if_pos (by simp)]
      simp
    | cons c body ih =>
      have hbody : Closes mark body := fun ahead behind h =>
        hcloses (c :: ahead) behind (by simp [h])
      have hbegins : mark.isPrefixOf (c :: (body ++ (mark ++ rest))) = false := by
        rw [← Bool.not_eq_true, List.isPrefixOf_iff_prefix]
        exact hcloses.not_prefix rest
      rw [List.cons_append, splitAt?, hbegins, ih hbody]
      rfl

/-! ## Spelling -/

/-- **How tokens are spelled**: in a mode, a token with the mode after it, the
characters it is written with, and what may follow them. -/
inductive Spells : Mode → Token → Mode → List Char → List Char → Prop
  | tagOpen {name rest : List Char} : isName name = true → EndsName rest →
      Spells .content (.tagOpen (String.ofList name)) .tag ('<' :: name) rest
  | closeTag {name blanks rest : List Char} : isName name = true →
      (∀ c ∈ blanks, Text.isBlank c = true) →
      Spells .content (.closeTag (String.ofList name)) .content
        ('<' :: '/' :: (name ++ blanks ++ ['>'])) rest
  | text {raw content rest : List Char} : raw ≠ [] → '<' ∉ raw →
      decodeReferences raw = .ok content → Fresh rest →
      Spells .content (.text (String.ofList content)) .content raw rest
  | literal {body rest : List Char} : Closes cdataClosing body →
      Spells .content (.text (String.ofList body)) .content (cdataOpening ++ body ++ cdataClosing)
        rest
  | attr {name blanks blanks' raw value rest : List Char} {quote : Char} : isName name = true →
      (∀ c ∈ blanks, Text.isBlank c = true) → (∀ c ∈ blanks', Text.isBlank c = true) →
      quote = '\x22' ∨ quote = '\x27' → quote ∉ raw → '<' ∉ raw →
      decodeReferences raw = .ok value →
      Spells .tag (.attr (String.ofList name) (String.ofList value)) .tag
        (name ++ blanks ++ '=' :: blanks' ++ quote :: (raw ++ [quote])) rest
  | tagEnd {rest : List Char} : Spells .tag .tagEnd .content ['>'] rest
  | selfClose {rest : List Char} : Spells .tag .selfClose .content ['/', '>'] rest

/-- A comment, a processing instruction, or a declaration. -/
inductive Aside : List Char → Prop
  | comment {body : List Char} : Closes ['-', '-', '>'] body →
      Aside (['<', '!', '-', '-'] ++ body ++ ['-', '-', '>'])
  | instruction {body : List Char} : Closes ['?', '>'] body →
      Aside (['<', '?'] ++ body ++ ['?', '>'])
  | declaration {body : List Char} : Closes ['>'] body → ¬ ['-', '-'] <+: body →
      ¬ ['[', 'C', 'D', 'A', 'T', 'A', '['] <+: body → Aside (['<', '!'] ++ body ++ ['>'])

/-- **What makes no token**, and what may follow it: all the blanks at a place
inside a tag, and an aside between tags. -/
inductive Passes : Mode → List Char → List Char → Prop
  | blanks {text rest : List Char} : text ≠ [] → (∀ c ∈ text, Text.isBlank c = true) →
      (∀ c ∈ rest.head?, Text.isBlank c = false) → Passes .tag text rest
  | aside {text rest : List Char} : Aside text → Passes .content text rest

/-- **How a source is laid out**: `Laid mode before after placed` cuts `after`,
which follows `before` in the source, into tokens and what makes none. Each token
stands at the place where its own characters start, and the end at the end. -/
inductive Laid : Mode → List Char → List Char → List Placed → Prop
  | ends {before : List Char} : Laid .content before [] [⟨.eof, .behind before⟩]
  | passes {mode : Mode} {before text after : List Char} {placed : List Placed} :
      Passes mode text after → Laid mode (before ++ text) after placed →
      Laid mode before (text ++ after) placed
  | token {mode mode' : Mode} {token : Token} {before text after : List Char}
      {placed : List Placed} :
      Spells mode token mode' text after → Laid mode' (before ++ text) after placed →
      Laid mode before (text ++ after) (⟨token, .behind before⟩ :: placed)

theorem Spells.ne_nil {text : List Char} (h : Spells mode token mode' text rest) : text ≠ [] := by
  cases h with
  | text hne => exact hne
  | _ => simp [cdataOpening]

/-! ## Every step is spelled -/

/-- What a step of a source hands on is spelled, and it ends only at the end. -/
def Step.Spelled (mode : Mode) (cs : List Char) : Step → Prop
  | .emit token mode' read rest => Spells mode token mode' read rest
  | .skip read rest => Passes mode read rest
  | .done => mode = .content ∧ cs = []
  | .fail _ _ => True

theorem skipPassage_spelled {passage : Passage} {opening closing : List Char}
    (hclosing : closing ≠ [])
    (h : ∀ body rest, cs = body ++ (closing ++ rest) → Closes closing body →
      Aside (opening ++ body ++ closing)) :
    (skipPassage passage opening closing cs).Spelled .content before := by
  unfold skipPassage
  split
  next body rest hsplit =>
    obtain ⟨hcs, hcloses⟩ := (splitAt?_eq_some_iff hclosing).1 hsplit
    exact .aside (h body rest hcs hcloses)
  next => trivial

theorem literal_spelled (cs : List Char) : (literal cs).Spelled .content before := by
  unfold literal
  split
  next body rest hsplit =>
    exact .literal ((splitAt?_eq_some_iff (by simp [cdataClosing])).1 hsplit).2
  next => trivial

/-- A stretch goes on as far as it can: what follows it is not of its kind. -/
theorem eq_false_of_mem_head?_dropWhile {p : Char → Bool} {c : Char}
    (h : c ∈ (cs.dropWhile p).head?) : p c = false := by
  have hhead := List.head?_dropWhile_not p cs
  rw [Option.mem_def.1 h] at hhead
  simpa using hhead

theorem closing_spelled (cs : List Char) : (closing cs).Spelled .content before := by
  unfold closing
  split
  next hstarts =>
    dsimp only
    split
    next => exact .closeTag (isName_splitName hstarts) fun c hc => List.mem_takeWhile_imp hc
    next => trivial
  next => trivial

theorem opening_spelled (cs : List Char) : (opening cs).Spelled .content before := by
  unfold opening
  split
  next hstarts =>
    exact .tagOpen (isName_splitName hstarts) fun c hc => eq_false_of_mem_head?_dropWhile hc
  next => trivial

theorem characters_spelled {c : Char} (hc : c ≠ '<') (cs : List Char) :
    (characters (c :: cs)).Spelled .content before := by
  unfold characters
  dsimp only
  split
  next content hdecode =>
    refine .text (by simp [hc]) ?_ hdecode ?_
    · intro hmem
      have hne := List.mem_takeWhile_imp hmem
      simp at hne
    · intro d hd
      have hstop := eq_false_of_mem_head?_dropWhile hd
      simpa using hstop
  next => trivial

theorem contentStep_spelled (cs : List Char) : (contentStep cs).Spelled .content cs := by
  unfold contentStep
  split
  next => exact ⟨rfl, rfl⟩
  next => exact skipPassage_spelled (by simp) fun _ _ _ => .comment
  next => exact skipPassage_spelled (by simp) fun _ _ _ => .instruction
  next cs => exact literal_spelled cs
  next cs hcomment hliteral =>
    refine skipPassage_spelled (by simp) fun body rest hcs hcloses => .declaration hcloses ?_ ?_
    · rintro ⟨tail, rfl⟩
      exact hcomment _ (by rw [hcs]; rfl)
    · rintro ⟨tail, rfl⟩
      exact hliteral _ (by rw [hcs]; rfl)
  next cs => exact closing_spelled cs
  next => exact opening_spelled _
  next hnil _ _ _ _ _ hangle =>
    match cs with
    | [] => exact (hnil rfl).elim
    | c :: cs => exact characters_spelled (fun hc => hangle cs (by rw [hc])) cs

theorem attributeValue_spelled {name blanks blanks' : List Char} {quote : Char}
    (hname : isName name = true) (hblanks : ∀ c ∈ blanks, Text.isBlank c = true)
    (hblanks' : ∀ c ∈ blanks', Text.isBlank c = true) (hquote : quote = '\x22' ∨ quote = '\x27')
    (hread : read = name ++ blanks ++ '=' :: blanks' ++ [quote]) (cs : List Char) :
    (attributeValue name read quote cs).Spelled .tag before := by
  unfold attributeValue
  dsimp only
  split
  next => trivial
  next c rest _ =>
    split
    next hc =>
      split
      next value hdecode =>
        have hraw : ∀ d ∈ cs.takeWhile (fun c => decide (c ≠ quote) && decide (c ≠ '<')),
            d ≠ quote ∧ d ≠ '<' := by
          intro d hd
          have hin := List.mem_takeWhile_imp hd
          simpa using hin
        have hspells : Spells .tag _ .tag _ rest := .attr hname hblanks hblanks' hquote
          (fun hmem => (hraw _ hmem).1 rfl) (fun hmem => (hraw _ hmem).2 rfl) hdecode
        rw [hread, hc]
        simpa [Step.Spelled] using hspells
      next => trivial
    next => trivial

theorem attrStep_spelled (hstarts : startsName cs = true) :
    (attrStep cs).Spelled .tag before := by
  have hname := isName_splitName hstarts
  unfold attrStep
  dsimp only
  split
  next rest _ =>
    split
    next quote rest' _ =>
      split
      next hquote =>
        exact attributeValue_spelled hname (fun c hc => List.mem_takeWhile_imp hc)
          (fun c hc => List.mem_takeWhile_imp hc) hquote rfl rest'
      next => trivial
    next => trivial
  next => trivial

theorem tagStep_spelled (cs : List Char) : (tagStep cs).Spelled .tag cs := by
  unfold tagStep
  split
  next => trivial
  next => exact .tagEnd
  next => exact .selfClose
  next => trivial
  next c cs _ _ _ =>
    split
    next hblank =>
      exact .blanks (by simp [hblank]) (fun d hd => List.mem_takeWhile_imp hd)
        fun d hd => eq_false_of_mem_head?_dropWhile hd
    next =>
      split
      next hstart => exact attrStep_spelled hstart
      next => trivial

/-- **Every step is spelled.** -/
theorem step_spelled (mode : Mode) (cs : List Char) : (step mode cs).Spelled mode cs := by
  cases mode
  · exact contentStep_spelled cs
  · exact tagStep_spelled cs

/-! ## What is spelled is read -/

/-- A stretch of a kind ends where what follows is not of it. -/
theorem takeWhile_stretch {p : Char → Bool} {text : List Char} (htext : ∀ c ∈ text, p c = true)
    (hrest : ∀ c ∈ rest.head?, p c = false) :
    (text ++ rest).takeWhile p = text ∧ (text ++ rest).dropWhile p = rest := by
  rw [List.takeWhile_append_of_pos htext, List.dropWhile_append_of_pos htext]
  cases rest with
  | nil => simp
  | cons c rest =>
    have hc := hrest c rfl
    simp [hc]

theorem takeWhile_stretch_cons {p : Char → Bool} {text : List Char} {c : Char}
    (htext : ∀ d ∈ text, p d = true) (hc : p c = false) (rest : List Char) :
    (text ++ c :: rest).takeWhile p = text ∧ (text ++ c :: rest).dropWhile p = c :: rest :=
  takeWhile_stretch htext (by simpa using hc)

theorem ne_of_isBlank {c d : Char} (hc : Text.isBlank c = true) (hd : Text.isBlank d = false) :
    c ≠ d := by
  rintro rfl
  rw [hc] at hd
  cases hd

theorem isNameChar_of_isBlank {c : Char} (h : Text.isBlank c = true) : isNameChar c = false := by
  have hunder := ne_of_isBlank (d := '_') h (by decide)
  have hdash := ne_of_isBlank (d := '-') h (by decide)
  have hdot := ne_of_isBlank (d := '.') h (by decide)
  have hcolon := ne_of_isBlank (d := ':') h (by decide)
  simp [isNameChar, Text.isAlphabetic_of_isBlank h, Text.isNumeric_of_isBlank h, hunder, hdash,
    hdot, hcolon]

/-- Blanks end a name, and so does a mark after them. -/
theorem endsName_blanks {blanks : List Char} {c : Char}
    (hblanks : ∀ d ∈ blanks, Text.isBlank d = true) (hc : isNameChar c = false)
    (rest : List Char) : EndsName (blanks ++ c :: rest) := by
  intro d hd
  cases blanks with
  | nil =>
    cases hd
    exact hc
  | cons blank blanks =>
    cases hd
    exact isNameChar_of_isBlank (hblanks _ List.mem_cons_self)

theorem splitName_stretch {name : List Char} (hname : isName name = true) (hrest : EndsName rest) :
    splitName (name ++ rest) = (name, rest) := by
  obtain ⟨htake, hdrop⟩ := takeWhile_stretch (isNameChar_of_mem hname) hrest
  rw [splitName, htake, hdrop]

theorem closing_stretch {name blanks : List Char} (hname : isName name = true)
    (hblanks : ∀ c ∈ blanks, Text.isBlank c = true) (rest : List Char) :
    closing (name ++ (blanks ++ '>' :: rest)) =
      .emit (.closeTag (String.ofList name)) .content ('<' :: '/' :: (name ++ blanks) ++ ['>'])
        rest := by
  have hangle : isNameChar '>' = false := by decide
  have hsplit := splitName_stretch hname (endsName_blanks hblanks hangle rest)
  obtain ⟨htake, hdrop⟩ := takeWhile_stretch_cons (c := '>') hblanks (by decide) rest
  rw [closing, if_pos (startsName_append hname _), hsplit]
  simp only [htake, hdrop]

theorem characters_stretch {raw content : List Char} (hraw : '<' ∉ raw)
    (hdecode : decodeReferences raw = .ok content) (hrest : Fresh rest) :
    characters (raw ++ rest) = .emit (.text (String.ofList content)) .content raw rest := by
  obtain ⟨htake, hdrop⟩ := takeWhile_stretch (p := (· ≠ '<'))
    (fun c hc => decide_eq_true fun hangle => hraw (hangle ▸ hc))
    (fun c hc => decide_eq_false fun hne => hne (hrest c hc))
  rw [characters, htake, hdrop]
  simp only [hdecode]

theorem attributeValue_stretch {name raw value : List Char} {quote : Char} (hquote : quote ∉ raw)
    (hraw : '<' ∉ raw) (hdecode : decodeReferences raw = .ok value) (read rest : List Char) :
    attributeValue name read quote (raw ++ quote :: rest) =
      .emit (.attr (String.ofList name) (String.ofList value)) .tag (read ++ raw ++ [quote])
        rest := by
  have hin : ∀ c ∈ raw, (decide (c ≠ quote) && decide (c ≠ '<')) = true := by
    intro c hc
    have hne : c ≠ quote := fun heq => hquote (heq ▸ hc)
    have hne' : c ≠ '<' := fun heq => hraw (heq ▸ hc)
    simp [hne, hne']
  obtain ⟨htake, hdrop⟩ := takeWhile_stretch_cons (c := quote) hin (by simp) rest
  rw [attributeValue, htake, hdrop]
  simp [hdecode]

theorem attrStep_stretch {name blanks blanks' raw value : List Char} {quote : Char}
    (hname : isName name = true) (hblanks : ∀ c ∈ blanks, Text.isBlank c = true)
    (hblanks' : ∀ c ∈ blanks', Text.isBlank c = true) (hmark : quote = '\x22' ∨ quote = '\x27')
    (hquote : quote ∉ raw) (hraw : '<' ∉ raw) (hdecode : decodeReferences raw = .ok value)
    (rest : List Char) :
    attrStep (name ++ (blanks ++ '=' :: (blanks' ++ quote :: (raw ++ quote :: rest)))) =
      .emit (.attr (String.ofList name) (String.ofList value)) .tag
        (name ++ blanks ++ '=' :: blanks' ++ quote :: (raw ++ [quote])) rest := by
  have hquoteBlank : Text.isBlank quote = false := by
    rcases hmark with rfl | rfl <;> decide
  have hequals : isNameChar '=' = false := by decide
  have hsplit := splitName_stretch hname
    (endsName_blanks hblanks hequals (blanks' ++ quote :: (raw ++ quote :: rest)))
  obtain ⟨htake, hdrop⟩ := takeWhile_stretch_cons (c := '=') hblanks (by decide)
    (blanks' ++ quote :: (raw ++ quote :: rest))
  obtain ⟨htake', hdrop'⟩ := takeWhile_stretch_cons hblanks' hquoteBlank (raw ++ quote :: rest)
  rw [attrStep, hsplit]
  simp only [htake, hdrop, htake', hdrop', if_pos hmark,
    attributeValue_stretch hquote hraw hdecode]
  simp

/-- **What spells a token is read as the token.** -/
theorem step_of_spells {text : List Char} (h : Spells mode token mode' text rest) :
    step mode (text ++ rest) = .emit token mode' text rest := by
  cases h with
  | @tagOpen name rest hname hends =>
    have hstarts := startsName_append hname rest
    rw [step, List.cons_append, contentStep_of_startsName hstarts, opening, if_pos hstarts,
      splitName_stretch hname hends]
  | @closeTag name blanks rest hname hblanks =>
    have hclosing := closing_stretch hname hblanks rest
    simpa [step, contentStep] using hclosing
  | @text raw content rest hne hraw hdecode hrest =>
    obtain ⟨c, cs, rfl⟩ := List.exists_cons_of_ne_nil hne
    have hc : c ≠ '<' := fun hangle => hraw (hangle ▸ List.mem_cons_self)
    -- only an angle opens anything but text
    have hcontent : contentStep (c :: cs ++ rest) = characters (c :: cs ++ rest) := by
      rw [List.cons_append]
      unfold contentStep
      split <;> simp_all
    rw [step, hcontent, characters_stretch hraw hdecode hrest]
  | @literal body rest hcloses =>
    have hsplit : splitAt? cdataClosing (body ++ (cdataClosing ++ rest)) = some (body, rest) :=
      (splitAt?_eq_some_iff (by simp [cdataClosing])).2 ⟨rfl, hcloses⟩
    have hliteral : contentStep (cdataOpening ++ (body ++ (cdataClosing ++ rest))) =
        literal (body ++ (cdataClosing ++ rest)) := by
      simp [cdataOpening, contentStep]
    rw [step, List.append_assoc, List.append_assoc, hliteral, literal, hsplit]
  | @attr name blanks blanks' raw value rest quote hname hblanks hblanks' hmark hquote hraw
      hdecode =>
    have hattr := attrStep_stretch hname hblanks hblanks' hmark hquote hraw hdecode rest
    rw [← tagStep_of_startsName (startsName_append hname _)] at hattr
    simpa [step] using hattr
  | tagEnd => rfl
  | selfClose => rfl

theorem skipPassage_stretch {body closing : List Char} (passage : Passage) (opening : List Char)
    (hclosing : closing ≠ []) (h : Closes closing body) (rest : List Char) :
    skipPassage passage opening closing (body ++ (closing ++ rest)) =
      .skip (opening ++ body ++ closing) rest := by
  rw [skipPassage, (splitAt?_eq_some_iff hclosing).2 ⟨rfl, h⟩]

/-- A declaration is what starts as no comment and no literal section. -/
theorem contentStep_of_declaration (hcomment : ¬ ['-', '-'] <+: cs)
    (hliteral : ¬ ['[', 'C', 'D', 'A', 'T', 'A', '['] <+: cs) :
    contentStep ('<' :: '!' :: cs) = skipPassage .declaration ['<', '!'] ['>'] cs := by
  -- of the five ways in which an angle goes on, the two marks are ruled out by hypothesis
  unfold contentStep
  split
  next h => cases h
  next h => simp_all
  next h => cases h
  next h => simp_all
  next h =>
    cases h
    rfl
  next h => cases h
  next _ hbang _ h =>
    cases h
    exact (hbang cs rfl).elim
  next h => simp_all

/-- **An aside is passed over.** -/
theorem step_of_aside {text : List Char} (h : Aside text) (rest : List Char) :
    step .content (text ++ rest) = .skip text rest := by
  cases h with
  | @comment body hcloses =>
    have hskip := skipPassage_stretch .comment ['<', '!', '-', '-'] (by simp) hcloses rest
    simpa [step, contentStep] using hskip
  | @instruction body hcloses =>
    have hskip := skipPassage_stretch .instruction ['<', '?'] (by simp) hcloses rest
    simpa [step, contentStep] using hskip
  | @declaration body hcloses hcomment hliteral =>
    have hskip := skipPassage_stretch .declaration ['<', '!'] (by simp) hcloses rest
    -- the closing angle is in neither mark, so the marks do not reach past the body
    have hshort : ∀ mark : List Char, '>' ∉ mark → ¬ mark <+: body →
        ¬ mark <+: body ++ (['>'] ++ rest) := by
      intro mark hmark hbody hbegins
      have hwhole : body <+: body ++ (['>'] ++ rest) := List.prefix_append ..
      rcases List.prefix_or_prefix_of_prefix hbegins hwhole with hin | ⟨tail, rfl⟩
      · exact hbody hin
      · rw [List.prefix_append_right_inj] at hbegins
        cases tail with
        | nil => exact hbody (by simp)
        | cons c tail =>
          rw [List.singleton_append, List.cons_prefix_cons] at hbegins
          exact hmark (by simp [hbegins.1])
    rw [← contentStep_of_declaration (hshort _ (by decide) hcomment)
      (hshort _ (by decide) hliteral)] at hskip
    simpa [step] using hskip

/-- **What makes no token is passed over.** -/
theorem step_of_passes {text : List Char} (h : Passes mode text rest) :
    step mode (text ++ rest) = .skip text rest := by
  cases h with
  | aside h => exact step_of_aside h rest
  | blanks hne hblanks hrest =>
    obtain ⟨htake, hdrop⟩ := takeWhile_stretch hblanks hrest
    obtain ⟨c, cs, rfl⟩ := List.exists_cons_of_ne_nil hne
    have hc := hblanks c List.mem_cons_self
    -- neither mark that ends a tag is a blank, so the blanks are read as such
    have hangle := ne_of_isBlank (d := '>') hc (by decide)
    have hslash := ne_of_isBlank (d := '/') hc (by decide)
    have htag : tagStep (c :: (cs ++ rest)) =
        .skip ((c :: (cs ++ rest)).takeWhile Text.isBlank)
          ((c :: (cs ++ rest)).dropWhile Text.isBlank) := by
      unfold tagStep
      split <;> simp_all
    rw [step, List.cons_append, htag, ← List.cons_append, htake, hdrop]

/-- **A step reads a token** just where the token is spelled. -/
theorem step_eq_emit_iff : step mode cs = .emit token mode' read rest ↔
    cs = read ++ rest ∧ Spells mode token mode' read rest := by
  constructor
  · intro h
    have hspelled := step_spelled mode cs
    have hsplits := step_splits mode cs
    rw [h] at hspelled hsplits
    exact ⟨hsplits.2.symm, hspelled⟩
  · rintro ⟨rfl, h⟩
    exact step_of_spells h

/-- **A step passes over characters** just where they make no token. -/
theorem step_eq_skip_iff : step mode cs = .skip read rest ↔
    cs = read ++ rest ∧ Passes mode read rest := by
  constructor
  · intro h
    have hspelled := step_spelled mode cs
    have hsplits := step_splits mode cs
    rw [h] at hspelled hsplits
    exact ⟨hsplits.2.symm, hspelled⟩
  · rintro ⟨rfl, h⟩
    exact step_of_passes h

/-- **A step ends** at the end of the source, between tags. -/
theorem step_eq_done_iff : step mode cs = .done ↔ mode = .content ∧ cs = [] := by
  constructor
  · intro h
    have hspelled := step_spelled mode cs
    rw [h] at hspelled
    exact hspelled
  · rintro ⟨rfl, rfl⟩
    rfl

/-! ## Every source is laid out -/

theorem exists_of_map_eq_ok {ε α β : Type} {result : Except ε α} {f : α → β} {b : β}
    (h : result.map f = .ok b) : ∃ a, result = .ok a ∧ f a = b := by
  cases result with
  | error e => cases h
  | ok a => exact ⟨a, rfl, Except.ok.inj h⟩

theorem laid_of_scan {p : Position} (h : scan mode p cs = .ok placed) (hp : p = .behind before) :
    Laid mode before cs placed := by
  fun_induction scan mode p cs generalizing placed before with
  | case1 mode p cs hstep =>
    obtain ⟨rfl, rfl⟩ := step_eq_done_iff.1 hstep
    cases h
    rw [hp]
    exact .ends
  | case2 => cases h
  | case3 mode p cs read rest hstep ih =>
    obtain ⟨rfl, hpasses⟩ := step_eq_skip_iff.1 hstep
    exact .passes hpasses (ih h (by rw [hp, Position.behind_append]))
  | case4 mode p cs token mode' read rest hstep ih =>
    obtain ⟨rfl, hspells⟩ := step_eq_emit_iff.1 hstep
    obtain ⟨following, hrest, rfl⟩ := exists_of_map_eq_ok h
    have hlaid := ih hrest (by rw [hp, Position.behind_append])
    rw [hp]
    exact .token hspells hlaid

theorem scan_nil (p : Position) : scan .content p [] = .ok [⟨.eof, p⟩] := by
  rw [scan]
  rfl

/-- **A source has the tokens it is laid out as**, and no others. -/
theorem scan_eq_ok_iff :
    scan mode (.behind before) cs = .ok placed ↔ Laid mode before cs placed := by
  constructor
  · exact fun h => laid_of_scan h rfl
  · intro h
    induction h with
    | ends => exact scan_nil _
    | passes hpasses _ ih =>
      rw [scan_of_skip _ (step_of_passes hpasses), ← Position.behind_append, ih]
    | token hspells _ ih =>
      rw [scan_of_emit _ (step_of_spells hspells), ← Position.behind_append, ih]
      rfl

theorem tokenize_eq_ok_iff {source : String} :
    tokenize source = .ok placed ↔ Laid .content [] source.toList placed := by
  rw [tokenize, ← Position.behind_nil, scan_eq_ok_iff]

namespace Laid

/-- **Where a token stands**: behind what comes before its own characters, which
spell it. The end has no characters, and nothing follows it. -/
theorem exists_of_mem (h : Laid mode before after placed) {found : Placed}
    (hmem : found ∈ placed) :
    ∃ ahead text rest, after = ahead ++ (text ++ rest) ∧
      found.position = .behind (before ++ ahead) ∧
      (found.token = .eof ∧ text = [] ∧ rest = [] ∨
        ∃ mode mode', Spells mode found.token mode' text rest) := by
  induction h with
  | @ends before =>
    rw [List.mem_singleton.1 hmem]
    exact ⟨[], [], [], rfl, by rw [List.append_nil], .inl ⟨rfl, rfl, rfl⟩⟩
  | @passes mode before text after placed _ _ ih =>
    obtain ⟨ahead, own, rest, rfl, hposition, hown⟩ := ih hmem
    refine ⟨text ++ ahead, own, rest, by rw [List.append_assoc], ?_, hown⟩
    rw [hposition, List.append_assoc]
  | @token mode mode' token before text after placed hspells _ ih =>
    rcases List.mem_cons.1 hmem with rfl | hmem
    · exact ⟨[], text, after, rfl, by rw [List.append_nil], .inr ⟨mode, mode', hspells⟩⟩
    · obtain ⟨ahead, own, rest, rfl, hposition, hown⟩ := ih hmem
      refine ⟨text ++ ahead, own, rest, by rw [List.append_assoc], ?_, hown⟩
      rw [hposition, List.append_assoc]

/-- **The places of the tokens grow**: each has characters before the next. -/
theorem pairwise (h : Laid mode before after placed) :
    (placed.map (·.position)).Pairwise (· < ·) := by
  induction h with
  | ends => exact List.pairwise_singleton _ _
  | passes _ _ ih => exact ih
  | @token mode mode' token before text after placed hspells hlaid ih =>
    rw [List.map_cons, List.pairwise_cons]
    refine ⟨fun p hp => ?_, ih⟩
    obtain ⟨found, hmem, rfl⟩ := List.mem_map.1 hp
    obtain ⟨ahead, _, _, -, hposition, -⟩ := hlaid.exists_of_mem hmem
    have hne : text ++ ahead ≠ [] := by simp [hspells.ne_nil]
    rw [hposition, List.append_assoc, Position.behind_append]
    exact Position.lt_after hne

/-- **The last token is the end**, at the end. -/
theorem getLast?_eq (h : Laid mode before after placed) :
    placed.getLast? = some ⟨.eof, .behind (before ++ after)⟩ := by
  induction h with
  | ends => simp
  | passes _ _ ih => rw [ih, List.append_assoc]
  | token _ _ ih => rw [List.getLast?_cons, ih, List.append_assoc, Option.getD_some]

end Laid

end Markup

end SceneScript
