import SceneScript.Proofs.Markup.Spelling
/-!
# Markup — sources behind each other

Reading a source never looks past what is complete. Where one source ends between
tags and no text is torn, what follows it has the tokens it has alone
(`Laid.scan_append`), all of them moved by where the first source ends
(`scan_moved`). So sources are read piece by piece, and an aside between two of
them changes no token.
-/

namespace SceneScript

namespace Markup

variable {mode mode' : Mode} {cs before after : List Char} {placed tokens : List Placed}

/-- The token, when its source stands behind the place `e` of another one. -/
def Placed.moved (e : Position) (token : Placed) : Placed :=
  ⟨token.token, e.moved token.position⟩

/-- The error, when its source stands behind the place `e` of another one. -/
def ParseError.moved (e : Position) (error : ParseError) : ParseError :=
  { error with position := e.moved error.position }

/-- What scanning gives, when the source stands behind the place `e`. -/
def movedBehind (e : Position) :
    Except ParseError (List Placed) → Except ParseError (List Placed)
  | .ok placed => .ok (placed.map (·.moved e))
  | .error error => .error (error.moved e)

/-- What scanning finds, wherever it stands: the tokens, or what is wrong. -/
def found : Except ParseError (List Placed) → Except Fault (List Token)
  | .ok placed => .ok (placed.map (·.token))
  | .error error => .error error.fault

/-- A seam between a source of some tokens and another one: the other one is
fresh, or there is no text before it that it could go on with. -/
def Seam (tokens : List Placed) (next : List Char) : Prop :=
  Fresh next ∨ ∀ t, tokens.getLast?.map (·.token) ≠ some (.text t)

/-! ## What is complete stays as it is -/

theorem head?_append_of_ne_nil {rest : List Char} (h : rest ≠ []) (next : List Char) :
    (rest ++ next).head? = rest.head? := by
  obtain ⟨c, cs, rfl⟩ := List.exists_cons_of_ne_nil h
  rfl

theorem Fresh.endsName {next : List Char} (h : Fresh next) : EndsName next := by
  intro c hc
  rw [h c hc]
  decide

/-- **A token stays what it is** when more follows: something follows it already,
or what comes is fresh, or nothing can add to it. -/
theorem Spells.append {token : Token} {text rest next : List Char}
    (h : Spells mode token mode' text rest)
    (hnext : rest ≠ [] ∨ Fresh next ∨ mode' = .content ∧ ∀ t, token ≠ .text t) :
    Spells mode token mode' text (rest ++ next) := by
  cases h with
  | tagOpen hname hends =>
    refine .tagOpen hname ?_
    by_cases hrest : rest = []
    · rcases hnext with hne | hfresh | ⟨hmode, -⟩
      · exact absurd hrest hne
      · rw [hrest]
        exact hfresh.endsName
      · cases hmode
    · rw [EndsName, head?_append_of_ne_nil hrest]
      exact hends
  | text hne hraw hdecode hfresh =>
    refine .text hne hraw hdecode ?_
    by_cases hrest : rest = []
    · rcases hnext with hne | hnext | ⟨-, htext⟩
      · exact absurd hrest hne
      · rw [hrest]
        exact hnext
      · exact absurd rfl (htext _)
    · rw [Fresh, head?_append_of_ne_nil hrest]
      exact hfresh
  | closeTag hname hblanks => exact .closeTag hname hblanks
  | literal hcloses => exact .literal hcloses
  | attr hname hblanks hblanks' hmark hquote hraw hdecode =>
    exact .attr hname hblanks hblanks' hmark hquote hraw hdecode
  | tagEnd => exact .tagEnd
  | selfClose => exact .selfClose

theorem Aside.head?_eq {text : List Char} (h : Aside text) : text.head? = some '<' := by
  cases h <;> rfl

theorem Passes.ne_nil {text rest : List Char} (h : Passes mode text rest) : text ≠ [] := by
  cases h with
  | blanks hne => exact hne
  | aside h =>
    intro hnil
    have hhead := h.head?_eq
    rw [hnil] at hhead
    cases hhead

/-- What makes no token makes none when more follows. -/
theorem Passes.append {text rest : List Char} (h : Passes mode text rest)
    (hnext : rest ≠ [] ∨ mode = .content) (next : List Char) :
    Passes mode text (rest ++ next) := by
  cases h with
  | aside h => exact .aside h
  | blanks hne hblanks hends =>
    rcases hnext with hrest | hmode
    · refine .blanks hne hblanks ?_
      rw [head?_append_of_ne_nil hrest]
      exact hends
    · cases hmode

/-- A source that is used up ends, and it ends between tags. -/
theorem Laid.of_nil (h : Laid mode before [] placed) :
    mode = .content ∧ placed = [⟨.eof, .behind before⟩] := by
  generalize hafter : ([] : List Char) = after at h
  cases h with
  | ends => exact ⟨rfl, rfl⟩
  | passes hpasses =>
    obtain ⟨htext, -⟩ := List.append_eq_nil_iff.1 hafter.symm
    exact absurd htext hpasses.ne_nil
  | token hspells =>
    obtain ⟨htext, -⟩ := List.append_eq_nil_iff.1 hafter.symm
    exact absurd htext hspells.ne_nil

theorem Seam.of_cons {token : Placed} {next : List Char} (h : Seam (token :: tokens) next) :
    Seam tokens next := by
  rcases h with hfresh | htext
  · exact .inl hfresh
  · right
    intro t
    cases tokens with
    | nil => simp
    | cons other tokens =>
      have hlast := htext t
      rwa [List.getLast?_cons_cons] at hlast

/-- **Reading goes on behind a source.** At a seam, what follows a source has the
tokens it has from there on, behind those of the source. -/
theorem Laid.scan_append {next : List Char} (h : Laid mode before after placed)
    (hseam : Seam placed.dropLast next) :
    scan mode (.behind before) (after ++ next) =
      (scan .content (.behind (before ++ after)) next).map (placed.dropLast ++ ·) := by
  induction h with
  | @ends before =>
    rw [List.append_nil, List.nil_append]
    cases scan .content (.behind before) next <;> rfl
  | @passes mode before text after placed hpasses hlaid ih =>
    have hnext : after ≠ [] ∨ mode = .content := by
      by_cases hafter : after = []
      · subst hafter
        exact .inr hlaid.of_nil.1
      · exact .inl hafter
    have hstep := step_of_passes (hpasses.append hnext next)
    rw [List.append_assoc, scan_of_skip _ hstep, ← Position.behind_append, ih hseam,
      List.append_assoc]
  | @token mode mode' token before text after placed hspells hlaid ih =>
    have hne : placed ≠ [] := by
      intro hnil
      have hlast := hlaid.getLast?_eq
      rw [hnil] at hlast
      cases hlast
    rw [List.dropLast_cons_of_ne_nil hne] at hseam ⊢
    have hnext : after ≠ [] ∨ Fresh next ∨ mode' = .content ∧ ∀ t, token ≠ .text t := by
      by_cases hafter : after = []
      · subst hafter
        obtain ⟨hmode, rfl⟩ := hlaid.of_nil
        rcases hseam with hfresh | htext
        · exact .inr (.inl hfresh)
        · refine .inr (.inr ⟨hmode, fun t ht => htext t ?_⟩)
          simp [ht]
      · exact .inl hafter
    have hstep := step_of_spells (hspells.append hnext)
    rw [List.append_assoc, scan_of_emit _ hstep, ← Position.behind_append, ih hseam.of_cons,
      List.append_assoc]
    cases scan .content (.behind (before ++ (text ++ after))) next <;> rfl

/-! ## Moving a source -/

theorem scan_of_done {p : Position} (h : step mode cs = .done) :
    scan mode p cs = .ok [⟨.eof, p⟩] := by
  rw [scan]
  split <;> simp_all

theorem scan_of_fail {p : Position} {fault : Fault} {read : List Char}
    (h : step mode cs = .fail fault read) :
    scan mode p cs = .error { fault, position := p.after read } := by
  rw [scan]
  split <;> simp_all

/-- **Reading does not depend on where a source stands**: its tokens, or the error
in it, move with it. -/
theorem scan_moved (e : Position) (mode : Mode) (before cs : List Char) :
    scan mode (e.after before) cs = movedBehind e (scan mode (.behind before) cs) := by
  generalize hp : Position.behind before = p
  fun_induction scan mode p cs generalizing before with
  | case1 mode p cs hstep =>
    rw [scan_of_done hstep, ← hp, ← Position.moved_behind]
    rfl
  | case2 mode p cs fault read hstep =>
    have hread : e.after (before ++ read) = e.moved (p.after read) := by
      rw [← Position.moved_behind, Position.behind_append, hp]
    rw [scan_of_fail hstep, ← Position.after_append, hread]
    rfl
  | case3 mode p cs read rest hstep ih =>
    have hread : Position.behind (before ++ read) = p.after read := by
      rw [Position.behind_append, hp]
    rw [scan_of_skip _ hstep, ← Position.after_append, ih _ hread]
  | case4 mode p cs token mode' read rest hstep ih =>
    have hread : Position.behind (before ++ read) = p.after read := by
      rw [Position.behind_append, hp]
    rw [scan_of_emit _ hstep, ← Position.after_append, ih _ hread, ← Position.moved_behind, hp]
    cases scan mode' (p.after read) rest <;> rfl

theorem scan_eq_movedBehind (e : Position) (source : String) :
    scan .content e source.toList = movedBehind e (tokenize source) :=
  scan_moved e .content [] source.toList

theorem found_movedBehind (e : Position) (result : Except ParseError (List Placed)) :
    found (movedBehind e result) = found result := by
  cases result with
  | error error => rfl
  | ok placed =>
    rw [movedBehind, found, found, List.map_map]
    rfl

theorem found_map_append (tokens : List Placed) (result : Except ParseError (List Placed)) :
    found (result.map (tokens ++ ·)) =
      (found result).map (tokens.map (·.token) ++ ·) := by
  cases result with
  | error error => rfl
  | ok placed => simp [Except.map, found]

/-! ## Sources in a row -/

/-- **Sources are read in a row.** Let a source have tokens up to an end, and let
another one be empty, or start with an angle, or follow no text. Then the two in a
row are read as the tokens of the first and those of the second, moved by where
the first ends; and if the second is refused, they are refused for the same
reason, at the place moved alike. An aside between the two changes neither the
tokens nor the reason. -/
theorem tokenize_append {a b : String} {tokens : List Placed} {e : Position}
    (ha : tokenize a = .ok (tokens ++ [⟨.eof, e⟩]))
    (hseam : b = "" ∨ b.toList.head? = some '<' ∨
      ∀ t, tokens.getLast?.map (·.token) ≠ some (.text t)) :
    e = .behind a.toList ∧
    (∀ placed, tokenize b = .ok placed →
      tokenize (a ++ b) = .ok (tokens ++ placed.map (·.moved e))) ∧
    (∀ error, tokenize b = .error error → tokenize (a ++ b) = .error (error.moved e)) ∧
    ∀ text, Aside text →
      found (tokenize (a ++ String.ofList text ++ b)) = found (tokenize (a ++ b)) := by
  have hlaid := tokenize_eq_ok_iff.1 ha
  have hend : e = .behind a.toList := by
    have hlast := hlaid.getLast?_eq
    rw [List.getLast?_concat, Option.some.injEq] at hlast
    exact congrArg Placed.position hlast
  have hrow : ∀ next, Seam tokens next → scan .content .start (a.toList ++ next) =
      (scan .content e next).map (tokens ++ ·) := by
    intro next hnext
    have hlast : (tokens ++ [(⟨.eof, e⟩ : Placed)]).dropLast = tokens := List.dropLast_concat
    have happend := hlaid.scan_append (hlast.symm ▸ hnext)
    rwa [hlast, List.nil_append, ← hend, Position.behind_nil] at happend
  have hfresh : Seam tokens b.toList := by
    rcases hseam with rfl | hangle | htext
    · exact .inl (by simp [Fresh])
    · exact .inl (by simp [Fresh, hangle])
    · exact .inr htext
  have hboth : tokenize (a ++ b) = (movedBehind e (tokenize b)).map (tokens ++ ·) := by
    rw [tokenize, String.toList_append, hrow _ hfresh, scan_eq_movedBehind]
  refine ⟨hend, fun placed hb => ?_, fun error hb => ?_, fun text htext => ?_⟩
  · rw [hboth, hb]
    rfl
  · rw [hboth, hb]
    rfl
  · have hbetween : Seam tokens (text ++ b.toList) := by
      obtain ⟨cs, rfl⟩ := List.head?_eq_some_iff.1 htext.head?_eq
      exact .inl (by simp [Fresh])
    have hskip := scan_of_skip e (step_of_aside htext b.toList)
    rw [hboth, tokenize, String.toList_append, String.toList_append, String.toList_ofList,
      List.append_assoc, hrow _ hbetween, hskip, scan_eq_movedBehind, found_map_append,
      found_map_append, found_movedBehind, found_movedBehind]

/-- What a scene with a text is opened by. -/
def openedScene : List Placed :=
  [⟨.tagOpen "s", ⟨1, 1⟩⟩, ⟨.tagEnd, ⟨1, 3⟩⟩, ⟨.text "one", ⟨1, 4⟩⟩]

/-- A text and a tag behind it, with a line feed in the tag: the row of them, the
row with a fault in the tag, and the row with a comment between the two. -/
theorem tokenize_append_openedScene :
    tokenize "<s>one" = .ok (openedScene ++ [⟨.eof, ⟨1, 7⟩⟩]) ∧
    tokenize ("<s>one" ++ "<b\n/></s>") = .ok (openedScene ++
      [⟨.tagOpen "b", ⟨1, 7⟩⟩, ⟨.selfClose, ⟨2, 1⟩⟩, ⟨.closeTag "s", ⟨2, 3⟩⟩, ⟨.eof, ⟨2, 7⟩⟩]) ∧
    tokenize ("<s>one" ++ "<b ?") =
      .error { fault := .strayCharacter '?', position := ⟨1, 10⟩ } ∧
    found (tokenize ("<s>one" ++ String.ofList "<!-- > -->".toList ++ "<b\n/></s>")) =
      found (tokenize ("<s>one" ++ "<b\n/></s>")) := by
  have hscene : tokenize "<s>one" = .ok (openedScene ++ [⟨.eof, ⟨1, 7⟩⟩]) := by decide +kernel
  have hbody : Closes ['-', '-', '>'] [' ', '>', ' '] := by
    have hsplit : splitAt? ['-', '-', '>'] [' ', '>', ' ', '-', '-', '>'] =
        some ([' ', '>', ' '], []) := by decide
    exact ((splitAt?_eq_some_iff (by simp)).1 hsplit).2
  have hnext : tokenize "<b\n/></s>" = .ok [⟨.tagOpen "b", ⟨1, 1⟩⟩, ⟨.selfClose, ⟨2, 1⟩⟩,
      ⟨.closeTag "s", ⟨2, 3⟩⟩, ⟨.eof, ⟨2, 7⟩⟩] := by decide +kernel
  have hfault : tokenize "<b ?" =
      .error { fault := .strayCharacter '?', position := ⟨1, 4⟩ } := by decide +kernel
  obtain ⟨-, hrow, -, haside⟩ := tokenize_append hscene (.inr (.inl rfl) : "<b\n/></s>" = "" ∨ _)
  obtain ⟨-, -, hrefused, -⟩ := tokenize_append hscene (.inr (.inl rfl) : "<b ?" = "" ∨ _)
  exact ⟨hscene, hrow _ hnext, hrefused _ hfault, haside _ (.comment hbody)⟩

end Markup

end SceneScript
