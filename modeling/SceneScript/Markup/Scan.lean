import SceneScript.Markup.Name
import SceneScript.Markup.Reference
import SceneScript.Text.Blank
/-!
# Markup — from characters to tokens

A source is read in two modes: content, where tags, passages and text
follow each other, and the inside of a tag, where attributes do. One `step`
reads the next piece in a mode and says what it is; it knows nothing of
positions, which `scan` derives from the characters of the pieces. Every
piece is a nonempty stretch of the source (`Step.Splits`), so scanning ends.
-/

namespace SceneScript
namespace Markup

/-- Where a step stands: between tags, or inside one. -/
inductive Mode where
  | content
  | tag
deriving DecidableEq, Repr

/-- What a step finds. -/
inductive Step where
  /-- A token, the mode after it, its characters, and the characters after
  them. -/
  | emit (token : Token) (mode : Mode) (read rest : List Char)
  /-- Characters that make no token, and the characters after them. -/
  | skip (read rest : List Char)
  /-- The end of the source, where it may end. -/
  | done
  /-- A fault, after the characters read so far. -/
  | fail (fault : Fault) (read : List Char)

/-! ## Pieces -/

/-- What stands before the first occurrence of a mark, and what after it. -/
def splitAt? (mark : List Char) : List Char → Option (List Char × List Char)
  | [] => if mark = [] then some ([], []) else none
  | c :: cs =>
    if mark.isPrefixOf (c :: cs) then some ([], (c :: cs).drop mark.length)
    else (splitAt? mark cs).map fun (body, rest) => (c :: body, rest)

/-- A passage that makes no token, after its opening mark. -/
def skipPassage (passage : Passage) (opening closing cs : List Char) : Step :=
  match splitAt? closing cs with
  | some (body, rest) => .skip (opening ++ body ++ closing) rest
  | none => .fail (.unterminatedPassage passage) opening

/-- The opening mark of a literal section. -/
def cdataOpening : List Char := ['<', '!', '[', 'C', 'D', 'A', 'T', 'A', '[']

/-- The closing mark of a literal section. -/
def cdataClosing : List Char := [']', ']', '>']

/-- A literal section, after its opening mark: text that is not decoded. -/
def literal (cs : List Char) : Step :=
  match splitAt? cdataClosing cs with
  | some (body, rest) =>
    .emit (.text (String.ofList body)) .content (cdataOpening ++ body ++ cdataClosing) rest
  | none => .fail (.unterminatedPassage .cdata) cdataOpening

/-- The name at the head of a text, and what follows it. -/
def splitName (cs : List Char) : List Char × List Char :=
  (cs.takeWhile isNameChar, cs.dropWhile isNameChar)

/-- Whether a name is at the head of a text. -/
def startsName : List Char → Bool
  | [] => false
  | c :: _ => isNameStart c

/-- A closing tag, after its slash. Blanks may follow the name. -/
def closing (cs : List Char) : Step :=
  if startsName cs then
    let (name, rest) := splitName cs
    let blanks := rest.takeWhile Text.isBlank
    let read := '<' :: '/' :: (name ++ blanks)
    match rest.dropWhile Text.isBlank with
    | '>' :: rest => .emit (.closeTag (String.ofList name)) .content (read ++ ['>']) rest
    | rest => .fail (.unfinishedCloseTag (String.ofList name)) (read ++ rest.take 1)
  else .fail (.expectedName cs.head?) ['<', '/']

/-- The start of a tag, after its angle. -/
def opening (cs : List Char) : Step :=
  if startsName cs then
    let (name, rest) := splitName cs
    .emit (.tagOpen (String.ofList name)) .tag ('<' :: name) rest
  else .fail (.expectedName cs.head?) ['<']

/-- Text up to the next tag or passage, with its references replaced. -/
def characters (cs : List Char) : Step :=
  let raw := cs.takeWhile (· ≠ '<')
  match decodeReferences raw with
  | .ok content => .emit (.text (String.ofList content)) .content raw (cs.dropWhile (· ≠ '<'))
  | .error fault => .fail fault []

/-- The next piece of content. -/
def contentStep : List Char → Step
  | [] => .done
  | '<' :: '!' :: '-' :: '-' :: cs =>
    skipPassage .comment ['<', '!', '-', '-'] ['-', '-', '>'] cs
  | '<' :: '?' :: cs => skipPassage .instruction ['<', '?'] ['?', '>'] cs
  | '<' :: '!' :: '[' :: 'C' :: 'D' :: 'A' :: 'T' :: 'A' :: '[' :: cs => literal cs
  | '<' :: '!' :: cs => skipPassage .declaration ['<', '!'] ['>'] cs
  | '<' :: '/' :: cs => closing cs
  | '<' :: cs => opening cs
  | cs => characters cs

/-- The value of an attribute, after its opening quote. The characters read
so far are those of the attribute up to and with that quote. -/
def attributeValue (name read : List Char) (quote : Char) (cs : List Char) : Step :=
  let raw := cs.takeWhile fun c => c ≠ quote && c ≠ '<'
  match cs.dropWhile fun c => c ≠ quote && c ≠ '<' with
  | [] => .fail .unterminatedValue read
  | c :: rest =>
    if c = quote then
      match decodeReferences raw with
      | .ok value =>
        .emit (.attr (String.ofList name) (String.ofList value)) .tag (read ++ raw ++ [c]) rest
      | .error fault => .fail fault read
    else .fail .angleInValue (read ++ raw)

/-- An attribute. Blanks may stand on both sides of the equals sign, and the
value is between quotes of either kind. -/
def attrStep (cs : List Char) : Step :=
  let (name, rest) := splitName cs
  let read := name ++ rest.takeWhile Text.isBlank
  match rest.dropWhile Text.isBlank with
  | '=' :: rest =>
    let read := read ++ '=' :: rest.takeWhile Text.isBlank
    match rest.dropWhile Text.isBlank with
    | c :: rest =>
      if c = '\x22' ∨ c = '\x27' then attributeValue name (read ++ [c]) c rest
      else .fail .unquotedValue (read ++ [c])
    | [] => .fail .unquotedValue read
  | rest => .fail (.expectedEquals (String.ofList name)) (read ++ rest.take 1)

/-- The next piece inside a tag. -/
def tagStep : List Char → Step
  | [] => .fail .unterminatedTag []
  | '>' :: cs => .emit .tagEnd .content ['>'] cs
  | '/' :: '>' :: cs => .emit .selfClose .content ['/', '>'] cs
  | '/' :: _ => .fail .slashAlone []
  | c :: cs =>
    if Text.isBlank c then
      .skip ((c :: cs).takeWhile Text.isBlank) ((c :: cs).dropWhile Text.isBlank)
    else if isNameStart c then attrStep (c :: cs)
    else .fail (.strayCharacter c) []

/-- The next piece in a mode. -/
def step : Mode → List Char → Step
  | .content => contentStep
  | .tag => tagStep

/-! ## Every piece is a stretch of the source -/

/-- What a step hands on splits the source, and what it read is not empty. -/
def Step.Splits (cs : List Char) : Step → Prop
  | .emit _ _ read rest => read ≠ [] ∧ read ++ rest = cs
  | .skip read rest => read ≠ [] ∧ read ++ rest = cs
  | .done => True
  | .fail _ _ => True

theorem append_of_splitAt? {mark cs body rest : List Char}
    (h : splitAt? mark cs = some (body, rest)) : body ++ (mark ++ rest) = cs := by
  induction cs generalizing body rest with
  | nil =>
    by_cases hm : mark = []
    · simp_all [splitAt?]
    · simp [splitAt?, hm] at h
  | cons c cs ih =>
    rw [splitAt?] at h
    split at h
    next hp =>
      obtain ⟨tail, ht⟩ := List.isPrefixOf_iff_prefix.1 hp
      simp only [Option.some.injEq, Prod.mk.injEq] at h
      obtain ⟨rfl, rfl⟩ := h
      rw [← ht]
      simp
    next =>
      obtain ⟨⟨body', rest'⟩, hs, he⟩ := Option.map_eq_some_iff.1 h
      simp only [Prod.mk.injEq] at he
      obtain ⟨rfl, rfl⟩ := he
      simp [ih hs]

theorem skipPassage_splits {passage : Passage} {opening closing cs : List Char}
    (ho : opening ≠ []) : (skipPassage passage opening closing cs).Splits (opening ++ cs) := by
  unfold skipPassage
  split
  next body rest h =>
    exact ⟨by simp [ho], by simp [← append_of_splitAt? h]⟩
  next => trivial

theorem literal_splits (cs : List Char) : (literal cs).Splits (cdataOpening ++ cs) := by
  unfold literal
  split
  next body rest h =>
    exact ⟨by simp [cdataOpening], by simp [← append_of_splitAt? h]⟩
  next => trivial

theorem closing_splits (cs : List Char) : (closing cs).Splits ('<' :: '/' :: cs) := by
  unfold closing
  split
  next =>
    simp only [splitName]
    split
    next rest h =>
      refine ⟨by simp, ?_⟩
      have hb := List.takeWhile_append_dropWhile (p := Text.isBlank)
        (l := cs.dropWhile isNameChar)
      rw [h] at hb
      have hn := List.takeWhile_append_dropWhile (p := isNameChar) (l := cs)
      simp only [List.cons_append, List.append_assoc, List.nil_append, List.cons.injEq, true_and]
      rw [hb, hn]
    next => trivial
  next => trivial

theorem opening_splits (cs : List Char) : (opening cs).Splits ('<' :: cs) := by
  unfold opening
  split
  next => exact ⟨by simp, by simp⟩
  next => trivial

theorem characters_splits {c : Char} {cs : List Char} (hc : c ≠ '<') :
    (characters (c :: cs)).Splits (c :: cs) := by
  unfold characters
  simp only
  split
  next => exact ⟨by simp [hc], List.takeWhile_append_dropWhile⟩
  next => trivial

theorem contentStep_splits (cs : List Char) : (contentStep cs).Splits cs := by
  unfold contentStep
  split
  next => trivial
  next => exact skipPassage_splits (by simp)
  next => exact skipPassage_splits (by simp)
  next cs => exact literal_splits cs
  next => exact skipPassage_splits (by simp)
  next cs => exact closing_splits cs
  next => exact opening_splits _
  next hnil _ _ _ _ _ hangle =>
    match cs with
    | [] => exact (hnil rfl).elim
    | c :: cs => exact characters_splits fun hc => hangle cs (by rw [hc])

theorem attributeValue_splits {name read cs : List Char} {quote : Char} (hr : read ≠ []) :
    (attributeValue name read quote cs).Splits (read ++ cs) := by
  unfold attributeValue
  simp only
  split
  next => trivial
  next c rest h =>
    split
    next =>
      split
      next =>
        refine ⟨by simp [hr], ?_⟩
        have hv := List.takeWhile_append_dropWhile (p := fun c => c ≠ quote && c ≠ '<') (l := cs)
        rw [h] at hv
        simp only [List.append_assoc, List.singleton_append]
        rw [hv]
      next => trivial
    next => trivial

theorem attrStep_splits {c : Char} {cs : List Char} (hc : isNameStart c = true) :
    (attrStep (c :: cs)).Splits (c :: cs) := by
  have hn := List.takeWhile_append_dropWhile (p := isNameChar) (l := c :: cs)
  have hne : (c :: cs).takeWhile isNameChar ≠ [] := by
    simp [isNameChar_of_isNameStart hc]
  unfold attrStep
  simp only [splitName]
  generalize (c :: cs).takeWhile isNameChar = name at hn hne
  generalize (c :: cs).dropWhile isNameChar = rest at hn
  have hb := List.takeWhile_append_dropWhile (p := Text.isBlank) (l := rest)
  rw [← hn]
  split
  next rest' h =>
    rw [h] at hb
    have hb' := List.takeWhile_append_dropWhile (p := Text.isBlank) (l := rest')
    split
    next d rest'' h' =>
      rw [h'] at hb'
      split
      next =>
        have key : name ++ rest =
            (name ++ rest.takeWhile Text.isBlank ++ '=' :: rest'.takeWhile Text.isBlank ++ [d]) ++
              rest'' := by
          simp only [List.append_assoc, List.cons_append, List.nil_append]
          rw [hb', hb]
        rw [key]
        exact attributeValue_splits (by simp)
      next => trivial
    next => trivial
  next => trivial

theorem tagStep_splits (cs : List Char) : (tagStep cs).Splits cs := by
  unfold tagStep
  split
  next => trivial
  next => exact ⟨by simp, rfl⟩
  next => exact ⟨by simp, rfl⟩
  next => trivial
  next c cs _ _ _ =>
    split
    next hb => exact ⟨by simp [hb], List.takeWhile_append_dropWhile⟩
    next =>
      split
      next hs => exact attrStep_splits hs
      next => trivial

/-- **Every piece is a nonempty stretch of the source**, so the rest after
it is shorter. -/
theorem step_splits (mode : Mode) (cs : List Char) : (step mode cs).Splits cs := by
  cases mode
  · exact contentStep_splits cs
  · exact tagStep_splits cs

/-- The rest after a piece is shorter than the source. -/
theorem length_lt_of_splits {read rest cs : List Char} (h : read ≠ [] ∧ read ++ rest = cs) :
    rest.length < cs.length := by
  obtain ⟨hr, rfl⟩ := h
  have := List.length_pos_iff.2 hr
  simp only [List.length_append]
  omega

/-! ## The whole source -/

/-- The tokens of a source from a place on, each with the place where its
text starts. A fault is placed after what its step had read. -/
def scan (mode : Mode) (p : Position) (cs : List Char) : Except ParseError (List Placed) :=
  match _h : step mode cs with
  | .done => .ok [⟨.eof, p⟩]
  | .fail fault read => .error { fault, position := p.after read }
  | .skip read rest => scan mode (p.after read) rest
  | .emit token mode' read rest => (scan mode' (p.after read) rest).map (⟨token, p⟩ :: ·)
termination_by cs.length
decreasing_by
  all_goals
    have hs := step_splits mode cs
    rw [_h] at hs
    exact length_lt_of_splits hs

/-- The tokens of a source. -/
def tokenize (source : String) : Except ParseError (List Placed) :=
  scan .content .start source.toList

end Markup
end SceneScript
