import SceneScript.Proofs.Markup.Grammar
import SceneScript.Proofs.Markup.Spelling
/-!
# Markup — where a rejection is placed

Tokens are viable as long as something can stand behind them with which they are a
document, and a list that is none breaks off at the first token that ends this. An
error belongs at that token, or, where the source ends with an element open, at the
opening tag of the innermost one (`ParseError.PointsAt`).

A reading never goes on behind a token that breaks a document off: whatever it has
taken can be completed (`Reading.exists_completion`), and what it rejects is rejected
whatever follows. So each rejection has its place (`Reading.rejects_of_run`). It is the
right one for all of them but that of a repeated attribute, which is placed at the token
behind it (`rejects_and_pointsAt_iff`).
-/

namespace SceneScript

namespace Markup

/-! ## Tokens that begin a document -/

section

variable {tokens ahead ahead' rest rest' : List Placed} {token token' : Placed}

/-- Tokens that begin a document: with some others behind them they are read. -/
def Viable (tokens : List Placed) : Prop :=
  ∃ rest root, parseTokens (tokens ++ rest) = .ok root

theorem Viable.of_append (h : Viable (tokens ++ rest)) : Viable tokens := by
  obtain ⟨behind, root, hread⟩ := h
  rw [List.append_assoc] at hread
  exact ⟨rest ++ behind, root, hread⟩

/-- **Where a list of tokens breaks off**: those ahead of the token begin a document,
and with it they begin none. -/
structure Breaks (tokens ahead : List Placed) (token : Placed) (rest : List Placed) : Prop where
  eq_append : tokens = ahead ++ token :: rest
  viable : Viable ahead
  not_viable : ¬Viable (ahead ++ [token])

/-- Behind a token that breaks the list off, nothing does. -/
theorem Breaks.not_length_lt (h : Breaks tokens ahead token rest)
    (h' : Breaks tokens ahead' token' rest') : ¬ahead.length < ahead'.length := by
  intro hlt
  have hprefix : ahead ++ [token] <+: ahead' := by
    have hshort : ahead ++ [token] <+: tokens := ⟨rest, by simp [h.eq_append]⟩
    have hlong : ahead' <+: tokens := ⟨token' :: rest', h'.eq_append.symm⟩
    refine List.prefix_of_prefix_length_le hshort hlong ?_
    rw [List.length_append, List.length_singleton]
    omega
  obtain ⟨between, hbetween⟩ := hprefix
  have hviable : Viable (ahead ++ [token] ++ between) := hbetween ▸ h'.viable
  exact h.not_viable hviable.of_append

/-- **A list breaks off at one token at most.** -/
theorem Breaks.unique (h : Breaks tokens ahead token rest)
    (h' : Breaks tokens ahead' token' rest') : ahead = ahead' ∧ token = token' := by
  have hlength : ahead.length = ahead'.length := by
    have hle := h.not_length_lt h'
    have hge := h'.not_length_lt h
    omega
  have happend := h.eq_append.symm.trans h'.eq_append
  obtain ⟨hahead, hrest⟩ := List.append_inj happend hlength
  exact ⟨hahead, (List.cons.inj hrest).1⟩

/-! ## Elements that are open -/

/-- The opening tags of the elements that are open behind one more token, those open
ahead of it given. -/
def turnTags (tags : List Placed) (token : Placed) : List Placed :=
  match token.token with
  | .tagOpen _ => token :: tags
  | .selfClose => tags.tail
  | .closeTag _ => tags.tail
  | _ => tags

/-- **The opening tags of the elements that are open** behind some tokens, the
innermost first. -/
def openTags (tokens : List Placed) : List Placed :=
  tokens.foldl turnTags []

theorem openTags_concat (tokens : List Placed) (token : Placed) :
    openTags (tokens ++ [token]) = turnTags (openTags tokens) token := by
  rw [openTags, List.foldl_append]
  rfl

/-! ## Where errors belong -/

/-- **Where an error belongs**: that an element is not closed, at the opening tag of the
innermost open one; everything else, at the token at which the list breaks off. -/
def ParseError.PointsAt (e : ParseError) (tokens : List Placed) : Prop :=
  match e.fault with
  | .unclosedElement name =>
    ∃ opening, (openTags tokens).head? = some opening ∧ opening.token = .tagOpen name ∧
      e.position = opening.position
  | _ => ∃ ahead token rest, Breaks tokens ahead token rest ∧ e.position = token.position

/-- A fault that is placed at the token that breaks the list off. -/
def Fault.Immediate : Fault → Prop
  | .unclosedElement _ => False
  | .repeatedAttribute _ _ => False
  | _ => True

/-- **How a list of tokens is rejected**, and where the error is placed. -/
inductive Rejects : List Placed → ParseError → Prop
  /-- The tokens end with an element open. -/
  | unclosed {ahead outer : List Placed} {ending opening : Placed} {name : String} :
      ending.token = .eof → openTags ahead = opening :: outer → opening.token = .tagOpen name →
      Rejects (ahead ++ [ending])
        { fault := .unclosedElement name, position := opening.position }
  /-- A token breaks the list off. -/
  | immediate {tokens ahead rest : List Placed} {token : Placed} {fault : Fault} :
      Breaks tokens ahead token rest → fault.Immediate →
      Rejects tokens { fault, position := token.position }
  /-- An attribute that its tag already has breaks the list off, and the error is placed
  at the token behind it. -/
  | repeated {tokens ahead rest : List Placed} {token next : Placed}
      {name value element : String} :
      Breaks tokens ahead token (next :: rest) → token.token = .attr name value →
      Rejects tokens { fault := .repeatedAttribute name element, position := next.position }

end

/-! ## What a reading has behind it -/

/-- The opening tag of an element. -/
def Node.opening (node : Node) : Placed :=
  ⟨.tagOpen node.name, node.position⟩

namespace Reading

variable {reading reading' : Reading} {next : Position} {tokens : List Placed} {token : Placed}
  {e : ParseError}

/-- The elements that are open, innermost first. -/
def opened : Reading → List Node
  | inTag node outer => node :: outer
  | inContent node outer => node :: outer
  | _ => []

/-- The opening tags of the open elements. -/
def tags (reading : Reading) : List Placed :=
  reading.opened.map Node.opening

theorem tags_close (node : Node) (outer : List Node) :
    (close node outer).tags = outer.map Node.opening := by
  cases outer <;> rfl

/-- What becomes of a token: taken, it turns the open elements as it turns the open
tags; rejected, it is where the error is placed, unless it repeats an attribute. -/
def Meets (reading : Reading) (next : Position) (token : Placed) : Except ParseError Reading → Prop
  | .ok reading' => reading'.tags = turnTags reading.tags token
  | .error e =>
    (∃ fault : Fault, e = { fault, position := token.position } ∧ fault.Immediate) ∨
      ∃ name value element, e = { fault := .repeatedAttribute name element, position := next } ∧
        token.token = .attr name value

theorem meets_take (reading : Reading) (next : Position) (token : Placed) :
    reading.Meets next token (reading.take next token) := by
  obtain ⟨found, position⟩ := token
  cases reading with
  | before =>
    cases found with
    | text t =>
      simp only [take]
      split
      · rfl
      · exact .inl ⟨_, rfl, trivial⟩
    | tagOpen name => rfl
    | _ => exact .inl ⟨_, rfl, trivial⟩
  | inTag node outer =>
    cases found with
    | attr name value =>
      simp only [take]
      split
      · exact .inr ⟨name, value, node.name, rfl, rfl⟩
      · rfl
    | selfClose => exact tags_close node outer
    | tagEnd => rfl
    | _ => exact .inl ⟨_, rfl, trivial⟩
  | inContent node outer =>
    cases found with
    | text t =>
      simp only [take, Node.addText]
      split <;> rfl
    | tagOpen name => rfl
    | closeTag name =>
      simp only [take]
      split
      · exact tags_close node outer
      · exact .inl ⟨_, rfl, trivial⟩
    | _ => exact .inl ⟨_, rfl, trivial⟩
  | after root =>
    cases found with
    | text t =>
      simp only [take]
      split
      · rfl
      · exact .inl ⟨_, rfl, trivial⟩
    | _ => exact .inl ⟨_, rfl, trivial⟩

/-- What comes next does not decide whether a token is taken. -/
theorem take_of_take (h : reading.take next token = .ok reading') (next' : Position) :
    reading.take next' token = .ok reading' := by
  cases reading with
  | inTag node outer =>
    cases htoken : token.token with
    | attr name value =>
      simp only [take, htoken] at h ⊢
      split at h
      next => cases h
      next hnew => rwa [if_neg hnew]
    | _ => simpa only [take, htoken] using h
  | _ => exact h

theorem ne_eof_of_take (h : reading.take next token = .ok reading') : token.token ≠ .eof := by
  intro heof
  cases reading <;> simp [take, heof] at h

/-- A reading that has taken some tokens, with the elements open that they leave open. -/
structure Behind (tokens : List Placed) (reading : Reading) : Prop where
  takes : before.Takes tokens reading
  tags : reading.tags = openTags tokens

theorem behind_nil : Behind [] before :=
  ⟨.refl _, rfl⟩

/-- **One more token.** -/
theorem Behind.concat (h : Behind tokens reading)
    (htake : reading.take next token = .ok reading') : Behind (tokens ++ [token]) reading' := by
  have hone : reading.Takes [token] reading' :=
    takes_one (ne_eof_of_take htake) fun next' => take_of_take htake next'
  have hmeets : reading.Meets next token (.ok reading') := htake ▸ meets_take reading next token
  refine ⟨h.takes.trans hone, ?_⟩
  rw [openTags_concat, ← h.tags]
  exact hmeets

/-! ## What is taken can be completed -/

/-- Elements that are open are completed by their closing tags, from the innermost on. -/
theorem exists_completion_close (node : Node) (outer : List Node) :
    ∃ rest root, ∀ last, (close node outer).run last rest = .ok root := by
  induction outer generalizing node with
  | nil => exact ⟨[], node, fun _ => rfl⟩
  | cons parent outer ih =>
    obtain ⟨rest, root, hrest⟩ := ih (parent.addChild node)
    refine ⟨⟨.closeTag parent.name, .start⟩ :: rest, root, fun last => ?_⟩
    have htake (next : Position) : (close node (parent :: outer)).take next
        ⟨.closeTag parent.name, .start⟩ = .ok (close (parent.addChild node) outer) := if_pos rfl
    rw [run, if_neg (by simp), htake]
    exact hrest last

/-- **Every reading can be completed**: there are tokens with which the document ends. -/
theorem exists_completion (reading : Reading) :
    ∃ rest root, ∀ last, reading.run last rest = .ok root := by
  cases reading with
  | before => exact ⟨[⟨.tagOpen "", .start⟩, ⟨.selfClose, .start⟩], _, fun _ => rfl⟩
  | inTag node outer =>
    obtain ⟨rest, root, hrest⟩ := exists_completion_close node outer
    exact ⟨⟨.selfClose, .start⟩ :: rest, root, hrest⟩
  | inContent node outer =>
    obtain ⟨rest, root, hrest⟩ := exists_completion_close node outer
    refine ⟨⟨.closeTag node.name, .start⟩ :: rest, root, fun last => ?_⟩
    have htake (next : Position) : (inContent node outer).take next
        ⟨.closeTag node.name, .start⟩ = .ok (close node outer) := if_pos rfl
    rw [run, if_neg (by simp), htake]
    exact hrest last
  | after root => exact ⟨[], root, fun _ => rfl⟩

namespace Behind

/-- A list of tokens is read as far as the reading has come, and then on from there. -/
theorem exists_parseTokens_eq (h : Behind tokens reading) (rest : List Placed) :
    ∃ last, parseTokens (tokens ++ rest) = reading.run last rest :=
  ⟨_, h.takes _ rest⟩

/-- **What has been taken begins a document.** -/
theorem viable (h : Behind tokens reading) : Viable tokens := by
  obtain ⟨rest, root, hrest⟩ := reading.exists_completion
  obtain ⟨last, hread⟩ := h.exists_parseTokens_eq rest
  exact ⟨rest, root, hread.trans (hrest last)⟩

/-- What no run gets over is not viable. -/
theorem not_viable (h : Behind tokens reading)
    (hrun : ∀ last rest root, reading.run last (token :: rest) ≠ .ok root) :
    ¬Viable (tokens ++ [token]) := by
  rintro ⟨rest, root, hread⟩
  obtain ⟨last, hrest⟩ := h.exists_parseTokens_eq (token :: rest)
  rw [List.append_assoc, List.singleton_append, hrest] at hread
  exact hrun last rest root hread

/-- **A token that is rejected breaks the list off**, whatever would follow. -/
theorem breaks (h : Behind tokens reading) (hne : token.token ≠ .eof)
    (htake : reading.take next token = .error e) (rest : List Placed) :
    Breaks (tokens ++ token :: rest) tokens token rest := by
  refine ⟨rfl, h.viable, h.not_viable fun last rest root hrun => ?_⟩
  rw [run, if_neg hne] at hrun
  split at hrun
  next reading' htaken =>
    have hboth := htake.symm.trans (take_of_take htaken next)
    cases hboth
  next => cases hrun

/-- So does the end, where a reading cannot end. -/
theorem breaks_end (h : Behind tokens reading) (heof : token.token = .eof)
    (hfinish : reading.finish token.position = .error e) :
    Breaks (tokens ++ [token]) tokens token [] := by
  refine ⟨rfl, h.viable, h.not_viable fun last rest root hrun => ?_⟩
  rw [run, if_pos heof, hfinish] at hrun
  cases hrun

end Behind

/-! ## The place of a rejection -/

/-- The end is rejected inside an element, and where no root element was read. -/
theorem Behind.rejects_end (h : Behind tokens reading) (heof : token.token = .eof)
    (hfinish : reading.finish token.position = .error e) : Rejects (tokens ++ [token]) e := by
  have hbreaks := h.breaks_end heof hfinish
  cases reading with
  | inContent node outer =>
    cases hfinish
    exact .unclosed heof h.tags.symm rfl
  | after root => cases hfinish
  | _ =>
    cases hfinish
    exact .immediate hbreaks trivial

/-- **Every rejection has its place**, where the tokens run up to an end token. -/
theorem rejects_of_run {body : List Placed} {ending : Placed} {last : Position}
    (h : Behind tokens reading) (hending : ending.token = .eof)
    (hbody : ∀ token ∈ body, token.token ≠ .eof)
    (hrun : reading.run last (body ++ [ending]) = .error e) :
    Rejects (tokens ++ (body ++ [ending])) e := by
  induction body generalizing tokens reading with
  | nil =>
    rw [List.nil_append, run, if_pos hending] at hrun
    exact h.rejects_end hending hrun
  | cons token body ih =>
    obtain ⟨hne, hbody⟩ := List.forall_mem_cons.1 hbody
    rw [List.cons_append, run, if_neg hne] at hrun
    -- something stands behind the token, the end if nothing else
    obtain ⟨next, rest, hnext⟩ : ∃ next rest, body ++ [ending] = next :: rest :=
      List.exists_cons_of_ne_nil (by simp)
    split at hrun
    next reading' htake =>
      have hrejects := ih (h.concat htake) hbody hrun
      rwa [List.append_assoc] at hrejects
    next e' htake =>
      cases hrun
      have hmeets := meets_take reading (((body ++ [ending]).head?.map (·.position)).getD last)
        token
      have hbreaks := h.breaks hne htake (body ++ [ending])
      rw [htake, hnext] at hmeets
      rw [hnext] at hbreaks
      rw [List.cons_append, hnext]
      obtain ⟨fault, rfl, himmediate⟩ | ⟨name, value, element, rfl, hattr⟩ := hmeets
      · exact .immediate hbreaks himmediate
      · exact .repeated hbreaks hattr

end Reading

/-! ## The tokens of a source -/

/-- The tokens of a source run up to their only end token. -/
theorem Laid.exists_ending {mode : Mode} {before after : List Char} {placed : List Placed}
    (h : Laid mode before after placed) :
    ∃ body ending, placed = body ++ [ending] ∧ ending.token = .eof ∧
      ∀ token ∈ body, token.token ≠ .eof := by
  induction h with
  | ends => exact ⟨[], _, rfl, rfl, List.forall_mem_nil _⟩
  | passes _ _ ih => exact ih
  | token hspells _ ih =>
    obtain ⟨body, ending, rfl, hending, hbody⟩ := ih
    refine ⟨_ :: body, ending, rfl, hending, List.forall_mem_cons.2 ⟨?_, hbody⟩⟩
    cases hspells <;> simp

/-- Of two tokens in a row in a source, the second stands further on. -/
theorem Laid.position_lt {mode : Mode} {before after : List Char} {ahead rest : List Placed}
    {token next : Placed} (h : Laid mode before after (ahead ++ token :: next :: rest)) :
    token.position < next.position := by
  have hgrow := h.pairwise
  rw [List.map_append, List.pairwise_append, List.map_cons, List.pairwise_cons] at hgrow
  exact hgrow.2.1.1 next.position (by simp)

/-- **A source that scans and is no document is rejected** in one of three ways. -/
theorem rejects_of_parse {source : String} {tokens : List Placed} {e : ParseError}
    (htokens : tokenize source = .ok tokens) (herror : parse source = .error e) :
    Rejects tokens e := by
  have hread : parseTokens tokens = .error e := by
    rw [parse, htokens] at herror
    exact herror
  obtain ⟨body, ending, rfl, hending, hbody⟩ := (tokenize_eq_ok_iff.1 htokens).exists_ending
  exact Reading.rejects_of_run Reading.behind_nil hending hbody hread

/-! ## Errors that point where they belong -/

section

variable {tokens ahead rest : List Placed} {token : Placed}

theorem pointsAt_unclosed {ending opening : Placed} {outer : List Placed} {name : String}
    (hending : ending.token = .eof) (hopen : openTags ahead = opening :: outer)
    (hopening : opening.token = .tagOpen name) :
    ({ fault := .unclosedElement name, position := opening.position } : ParseError).PointsAt
      (ahead ++ [ending]) := by
  refine ⟨opening, ?_, hopening, rfl⟩
  rw [openTags_concat, hopen, turnTags, hending]
  rfl

theorem pointsAt_immediate {fault : Fault} (hbreaks : Breaks tokens ahead token rest)
    (himmediate : fault.Immediate) :
    ({ fault, position := token.position } : ParseError).PointsAt tokens := by
  unfold ParseError.PointsAt
  split
  next name hfault =>
    have hunclosed : fault = .unclosedElement name := hfault
    rw [hunclosed] at himmediate
    exact himmediate.elim
  next => exact ⟨ahead, token, rest, hbreaks, rfl⟩

/-- A rejection points where it belongs if it is not for a repeated attribute. -/
theorem Rejects.pointsAt {e : ParseError} (h : Rejects tokens e)
    (hfault : ∀ name element, e.fault ≠ .repeatedAttribute name element) :
    e.PointsAt tokens := by
  cases h with
  | unclosed hending hopen hopening => exact pointsAt_unclosed hending hopen hopening
  | immediate hbreaks himmediate => exact pointsAt_immediate hbreaks himmediate
  | @repeated _ _ _ _ _ name _ element => exact absurd rfl (hfault name element)

/-- In a source it does not if it is, since places grow along a source and the error is
behind the token that breaks it off. -/
theorem Rejects.not_pointsAt {mode : Mode} {before after : List Char} {name element : String}
    {e : ParseError} (h : Rejects tokens e) (hlaid : Laid mode before after tokens)
    (hfault : e.fault = .repeatedAttribute name element) : ¬e.PointsAt tokens := by
  cases h with
  | unclosed => cases hfault
  | @immediate _ _ _ _ fault _ himmediate =>
    have hrepeated : fault = .repeatedAttribute name element := hfault
    rw [hrepeated] at himmediate
    exact himmediate.elim
  | @repeated _ ahead rest token next _ _ _ hbreaks _ =>
    rintro ⟨ahead', token', rest', hbreaks', hposition⟩
    obtain ⟨-, rfl⟩ := hbreaks.unique hbreaks'
    have hlt : token.position < next.position := by
      rw [hbreaks.eq_append] at hlaid
      exact hlaid.position_lt
    have hsame : next.position = token.position := hposition
    rw [hsame, Position.lt_iff] at hlt
    omega

end

/-- **Where a rejection is placed.** A source that scans and is no document is rejected
in one of three ways. The error points where it belongs, at the innermost open element
or at the first token with which the tokens so far begin no document, exactly when it
is not for a repeated attribute. -/
theorem rejects_and_pointsAt_iff {source : String} {tokens : List Placed} {e : ParseError}
    (htokens : tokenize source = .ok tokens) (herror : parse source = .error e) :
    Rejects tokens e ∧
      (e.PointsAt tokens ↔ ∀ name element, e.fault ≠ .repeatedAttribute name element) := by
  have hrejects := rejects_of_parse htokens herror
  refine ⟨hrejects, fun hpoints name element hfault => ?_, hrejects.pointsAt⟩
  exact hrejects.not_pointsAt (tokenize_eq_ok_iff.1 htokens) hfault hpoints

/-- A source that ends inside its second element, behind a third that is closed. -/
def unfinished : String := "<a><b x='1'>\n<c/>"

/-- The error is at the second one. -/
theorem rejects_and_pointsAt_iff_unfinished :
    ∃ tokens e, tokenize unfinished = .ok tokens ∧ parse unfinished = .error e ∧
      Rejects tokens e ∧ e.PointsAt tokens ∧ e.position = ⟨1, 4⟩ := by
  have htokens : tokenize unfinished = .ok [⟨.tagOpen "a", ⟨1, 1⟩⟩, ⟨.tagEnd, ⟨1, 3⟩⟩,
      ⟨.tagOpen "b", ⟨1, 4⟩⟩, ⟨.attr "x" "1", ⟨1, 7⟩⟩, ⟨.tagEnd, ⟨1, 12⟩⟩, ⟨.text "\n", ⟨1, 13⟩⟩,
      ⟨.tagOpen "c", ⟨2, 1⟩⟩, ⟨.selfClose, ⟨2, 3⟩⟩, ⟨.eof, ⟨2, 5⟩⟩] := by decide +kernel
  have herror : parse unfinished =
      .error { fault := .unclosedElement "b", position := ⟨1, 4⟩ } := by
    rw [parse, htokens]
    rfl
  have hfault (name element : String) :
      Fault.unclosedElement "b" ≠ .repeatedAttribute name element := by
    intro hsame
    cases hsame
  obtain ⟨hrejects, hpoints⟩ := rejects_and_pointsAt_iff htokens herror
  exact ⟨_, _, htokens, herror, hrejects, hpoints.2 hfault, rfl⟩

/-- A source with an attribute twice in its tag. -/
def doubled : String := "<a x='1' x='2'/>"

/-- **A repeated attribute is not where its error points**: the second one, at the tenth
character, breaks the document off, and the error is at the end of the tag. -/
theorem not_pointsAt_doubled :
    ∃ tokens e, tokenize doubled = .ok tokens ∧ parse doubled = .error e ∧
      ¬e.PointsAt tokens := by
  have htokens : tokenize doubled = .ok [⟨.tagOpen "a", ⟨1, 1⟩⟩, ⟨.attr "x" "1", ⟨1, 4⟩⟩,
      ⟨.attr "x" "2", ⟨1, 10⟩⟩, ⟨.selfClose, ⟨1, 15⟩⟩, ⟨.eof, ⟨1, 17⟩⟩] := by decide +kernel
  have herror : parse doubled =
      .error { fault := .repeatedAttribute "x" "a", position := ⟨1, 15⟩ } := by
    rw [parse, htokens]
    rfl
  have hlaid := tokenize_eq_ok_iff.1 htokens
  exact ⟨_, _, htokens, herror, (rejects_of_parse htokens herror).not_pointsAt hlaid rfl⟩

end Markup

end SceneScript
