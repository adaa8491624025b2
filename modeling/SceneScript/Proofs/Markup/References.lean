import Mathlib.Data.Nat.Digits.Defs
import SceneScript.Proofs.Markup.Print
import SceneScript.Proofs.Markup.Spelling
/-!
# Markup — references as markup has them

`Refers` says what may stand between an ampersand and a semicolon, and which
character that is: one of five names, or the digits of a code point, in base ten or
sixteen. `Referring` texts have a reference at each of their ampersands, and
`Decodes` replaces them from left to right, each by the character it stands for.

Decoding does just that, but takes a plus sign before the digits as well
(`decodeReferences_eq_ok_iff`). So a text is decoded as markup has it unless a
reference with such a sign is decoded in it (`asMarkup_iff`).
-/

namespace SceneScript

namespace Markup

variable {refers allowed : List Char → Char → Prop} {raw out name sign digits : List Char}
  {c : Char} {base n : Nat}

/-! ## Numerals -/

/-- The digits of base ten. -/
def decimalDigits : List Char := "0123456789".toList

/-- The digits of base sixteen, in either case. -/
def hexadecimalDigits : List Char := "0123456789abcdefABCDEF".toList

/-- The value of a digit: its place among the digits. -/
def digitValue (c : Char) : Nat :=
  "0123456789abcdef".toList.idxOf c.toLower

/-- Some digits, and no less than one, are the numeral of a number. -/
structure IsNumeral (alphabet : List Char) (base : Nat) (digits : List Char) (n : Nat) : Prop where
  ne_nil : digits ≠ []
  mem : ∀ d ∈ digits, d ∈ alphabet
  value : Nat.ofDigits base (digits.reverse.map digitValue) = n

theorem toNat_lt_of_isHexDigit (h : Decimal.isHexDigit c = true) : c.toNat < 103 := by
  rw [Decimal.isHexDigit, Bool.or_eq_true, Bool.and_eq_true, decide_eq_true_eq,
    decide_eq_true_eq] at h
  rcases h with hdigit | ⟨-, hletter⟩
  · have hnine : c.toNat ≤ 57 := (Char.isDigit_iff_toNat.1 hdigit).2
    omega
  · -- an upper-case letter is below all lower-case ones, and another one is itself bounded
    by_cases hupper : c.val ≤ 'Z'.val
    · have hcode : c.toNat ≤ 90 := hupper
      omega
    · have hsame : c.toLower = c := dif_neg fun hcase => hupper hcase.2
      rw [hsame] at hletter
      have hcode : c.toNat ≤ 102 := hletter
      omega

theorem isHexDigit_iff : Decimal.isHexDigit c = true ↔ c ∈ hexadecimalDigits := by
  constructor
  · intro h
    -- below the bound each code can be tried
    have hcodes : ∀ n < 103, Decimal.isHexDigit (Char.ofNat n) = true →
        Char.ofNat n ∈ hexadecimalDigits := by decide
    have hc := hcodes c.toNat (toNat_lt_of_isHexDigit h)
    rw [Char.ofNat_toNat] at hc
    exact hc h
  · intro h
    have hall : hexadecimalDigits.all Decimal.isHexDigit = true := by decide
    exact List.all_eq_true.1 hall c h

theorem isDigit_iff : c.isDigit = true ↔ c ∈ decimalDigits := by
  have hfilter : hexadecimalDigits.filter Char.isDigit = decimalDigits := by decide
  rw [← hfilter, List.mem_filter]
  constructor
  · intro h
    have hhex : Decimal.isHexDigit c = true := by rw [Decimal.isHexDigit, h, Bool.true_or]
    exact ⟨isHexDigit_iff.1 hhex, h⟩
  · exact fun h => h.2

theorem decimalDigits_subset : decimalDigits ⊆ hexadecimalDigits := by
  decide

/-- The number that digits spell is the one they have in their base. -/
theorem spelled_eq_ofDigits (base : Nat) (h : ∀ d ∈ digits, d ∈ hexadecimalDigits) :
    Decimal.spelled base digits = Nat.ofDigits base (digits.reverse.map digitValue) := by
  induction digits using List.reverseRecOn with
  | nil => rfl
  | append_singleton front d ih =>
    have hvalues : hexadecimalDigits.map
        (fun e => if e.isDigit then e.toNat - 48 else e.toLower.toNat - 87) =
          hexadecimalDigits.map digitValue := by decide
    have hlast := List.map_inj_left.1 hvalues d (h d (by simp))
    have hfront := ih fun e he => h e (by simp [he])
    rw [Decimal.spelled] at hfront ⊢
    rw [List.foldl_append, List.foldl_cons, List.foldl_nil, hfront, hlast, List.reverse_append,
      List.reverse_singleton, List.singleton_append, List.map_cons, Nat.ofDigits_cons]
    push_cast
    ring

/-! ## References -/

/-- A code point: a hash mark, for base sixteen an x, and digits, which the given
sign stands before. -/
inductive CodePoint (sign : List Char) : List Char → Char → Prop where
  | decimal {digits : List Char} {c : Char} : IsNumeral decimalDigits 10 digits c.toNat →
      CodePoint sign ('#' :: (sign ++ digits)) c
  | hexadecimal {digits : List Char} {c : Char} : IsNumeral hexadecimalDigits 16 digits c.toNat →
      CodePoint sign ('#' :: 'x' :: (sign ++ digits)) c

/-- What a reference has between its ampersand and its semicolon, and the
character that it stands for. -/
inductive Refers : List Char → Char → Prop where
  | lt : Refers "lt".toList '<'
  | gt : Refers "gt".toList '>'
  | amp : Refers "amp".toList '&'
  | quot : Refers "quot".toList '\x22'
  | apos : Refers "apos".toList '\x27'
  | codePoint {name : List Char} {c : Char} : CodePoint [] name c → Refers name c

/-- What decoding takes for a reference: a plus sign may stand before the digits. -/
def Accepted (name : List Char) (c : Char) : Prop :=
  Refers name c ∨ CodePoint ['+'] name c

theorem CodePoint.mem (h : CodePoint sign name c) :
    ∀ d ∈ name, d ∈ '#' :: 'x' :: (sign ++ hexadecimalDigits) := by
  intro d hd
  cases h with
  | decimal hdigits =>
    simp only [List.mem_cons, List.mem_append] at hd ⊢
    rcases hd with rfl | hd | hd
    · exact .inl rfl
    · exact .inr (.inr (.inl hd))
    · exact .inr (.inr (.inr (decimalDigits_subset (hdigits.mem d hd))))
  | hexadecimal hdigits =>
    simp only [List.mem_cons, List.mem_append] at hd ⊢
    rcases hd with rfl | rfl | hd | hd
    · exact .inl rfl
    · exact .inr (.inl rfl)
    · exact .inr (.inr (.inl hd))
    · exact .inr (.inr (.inr (hdigits.mem d hd)))

theorem plus_mem_of_codePoint (h : CodePoint ['+'] name c) : '+' ∈ name := by
  cases h <;> simp

/-- No reference has a plus sign in it. -/
theorem Refers.plus_notMem (h : Refers name c) : '+' ∉ name := by
  cases h with
  | codePoint h =>
    intro hplus
    exact absurd (h.mem _ hplus) (by decide)
  | _ => decide

/-- Between the two ends of a reference there is neither of them. -/
theorem Accepted.ends_notMem (h : Accepted name c) : ';' ∉ name ∧ '&' ∉ name := by
  rcases h with h | h
  · cases h with
    | codePoint h =>
      exact ⟨fun hd => absurd (h.mem _ hd) (by decide), fun hd => absurd (h.mem _ hd) (by decide)⟩
    | _ => decide
  · exact ⟨fun hd => absurd (h.mem _ hd) (by decide), fun hd => absurd (h.mem _ hd) (by decide)⟩

/-! ## What is taken for a reference -/

theorem ofNat_eq_iff : (n.isValidChar ∧ Char.ofNat n = c) ↔ n = c.toNat := by
  constructor
  · rintro ⟨hvalid, rfl⟩
    have hcode : Char.ofNat n = Char.ofNatAux n hvalid := dif_pos hvalid
    rw [hcode]
    rfl
  · rintro rfl
    exact ⟨c.valid, Char.ofNat_toNat c⟩

/-- The digits of a code point are a numeral of it. -/
theorem isNumeral_iff {isDigit : Char → Bool} {alphabet : List Char}
    (hdigit : ∀ d, isDigit d = true ↔ d ∈ alphabet) (hsub : alphabet ⊆ hexadecimalDigits) :
    ((digits ≠ [] ∧ digits.all isDigit = true ∧ (Decimal.spelled base digits).isValidChar) ∧
        Char.ofNat (Decimal.spelled base digits) = c) ↔
      IsNumeral alphabet base digits c.toNat := by
  constructor
  · rintro ⟨⟨hne, hall, hvalid⟩, hc⟩
    have hmem : ∀ d ∈ digits, d ∈ alphabet := fun d hd =>
      (hdigit d).1 (List.all_eq_true.1 hall d hd)
    refine ⟨hne, hmem, ?_⟩
    rw [← spelled_eq_ofDigits base fun d hd => hsub (hmem d hd)]
    exact ofNat_eq_iff.1 ⟨hvalid, hc⟩
  · rintro ⟨hne, hmem, hvalue⟩
    rw [← spelled_eq_ofDigits base fun d hd => hsub (hmem d hd)] at hvalue
    obtain ⟨hvalid, hc⟩ := ofNat_eq_iff.2 hvalue
    exact ⟨⟨hne, List.all_eq_true.2 fun d hd => (hdigit d).2 (hmem d hd), hvalid⟩, hc⟩

/-- **The digits of a code point are read** with a plus sign before them or without. -/
theorem charOfDigits?_eq_some_iff {isDigit : Char → Bool} {alphabet : List Char}
    (hdigit : ∀ d, isDigit d = true ↔ d ∈ alphabet) (hsub : alphabet ⊆ hexadecimalDigits)
    {cs : List Char} :
    charOfDigits? base isDigit cs = some c ↔
      ∃ sign digits, (sign = [] ∨ sign = ['+']) ∧ cs = sign ++ digits ∧
        IsNumeral alphabet base digits c.toNat := by
  have hplus : '+' ∉ alphabet := fun h => absurd (hsub h) (by decide)
  unfold charOfDigits?
  rw [Option.ite_none_right_eq_some, Option.some.injEq, isNumeral_iff hdigit hsub]
  constructor
  · intro h
    split at h
    next rest => exact ⟨['+'], rest, .inr rfl, rfl, h⟩
    next => exact ⟨[], cs, .inl rfl, rfl, h⟩
  · rintro ⟨sign, digits, rfl | rfl, rfl, h⟩
    · split
      next rest => exact absurd (h.mem '+' (by simp_all)) hplus
      next => exact h
    · exact h

theorem referenced?_of_codePoint (hsign : sign = [] ∨ sign = ['+']) (h : CodePoint sign name c) :
    referenced? name = some c := by
  cases h with
  | @decimal digits _ hdigits =>
    have hread : charOfDigits? 10 Char.isDigit (sign ++ digits) = some c :=
      (charOfDigits?_eq_some_iff (fun _ => isDigit_iff) decimalDigits_subset).2
        ⟨sign, digits, hsign, rfl, hdigits⟩
    -- no x stands before decimal digits, so they are not taken for hexadecimal ones
    have hx : ∀ rest, sign ++ digits ≠ 'x' :: rest := by
      rintro rest heq
      have hmem : 'x' ∈ sign ++ digits := by simp [heq]
      rcases List.mem_append.1 hmem with hs | hd
      · rcases hsign with rfl | rfl <;> simp at hs
      · exact absurd (hdigits.mem _ hd) (by decide)
    simp [referenced?, hread]
  | @hexadecimal digits _ hdigits =>
    have hread : charOfDigits? 16 Decimal.isHexDigit (sign ++ digits) = some c :=
      (charOfDigits?_eq_some_iff (fun _ => isHexDigit_iff) (List.Subset.refl _)).2
        ⟨sign, digits, hsign, rfl, hdigits⟩
    simp [referenced?, hread]

theorem referenced?_eq_some_iff : referenced? name = some c ↔ Accepted name c := by
  constructor
  · intro h
    unfold referenced? at h
    split_ifs at h with hlt hgt hamp hquot hapos
    · cases h
      exact .inl (hlt ▸ .lt)
    · cases h
      exact .inl (hgt ▸ .gt)
    · cases h
      exact .inl (hamp ▸ .amp)
    · cases h
      exact .inl (hquot ▸ .quot)
    · cases h
      exact .inl (hapos ▸ .apos)
    split at h
    next digits =>
      obtain ⟨sign, digits, rfl | rfl, rfl, hdigits⟩ :=
        (charOfDigits?_eq_some_iff (fun _ => isHexDigit_iff) (List.Subset.refl _)).1 h
      · exact .inl (.codePoint (.hexadecimal hdigits))
      · exact .inr (.hexadecimal hdigits)
    next digits =>
      obtain ⟨sign, digits, rfl | rfl, rfl, hdigits⟩ :=
        (charOfDigits?_eq_some_iff (fun _ => isDigit_iff) decimalDigits_subset).1 h
      · exact .inl (.codePoint (.decimal hdigits))
      · exact .inr (.decimal hdigits)
    next => cases h
  · rintro (h | h)
    · cases h with
      | codePoint h => exact referenced?_of_codePoint (.inl rfl) h
      | _ => decide
    · exact referenced?_of_codePoint (.inr rfl) h

/-! ## Texts with references -/

/-- A text with every reference replaced by its character, from left to right. What a
reference stands for is not read again. -/
inductive Decodes (refers : List Char → Char → Prop) : List Char → List Char → Prop where
  | nil : Decodes refers [] []
  | plain {c : Char} {cs out : List Char} : c ≠ '&' → Decodes refers cs out →
      Decodes refers (c :: cs) (c :: out)
  | reference {name cs out : List Char} {c : Char} : refers name c → Decodes refers cs out →
      Decodes refers ('&' :: (name ++ ';' :: cs)) (c :: out)

/-- Every ampersand of a text starts a reference. -/
def Referring (refers : List Char → Char → Prop) (raw : List Char) : Prop :=
  ∀ before after, raw = before ++ '&' :: after →
    ∃ name c rest, refers name c ∧ after = name ++ ';' :: rest

theorem Decodes.decodeReferences (h : Decodes Accepted raw out) :
    decodeReferences raw = .ok out := by
  induction h with
  | nil => rw [Markup.decodeReferences]
  | plain hc _ ih =>
    rw [Markup.decodeReferences, if_neg hc, ih]
    rfl
  | reference hname _ ih =>
    have hend : ∀ d ∈ _, d ≠ ';' := fun d hd hsemi => hname.ends_notMem.1 (hsemi ▸ hd)
    rw [decodeReferences_reference hend (referenced?_eq_some_iff.2 hname), ih]
    rfl

theorem decodes_of_decodeReferences (h : decodeReferences raw = .ok out) :
    Decodes Accepted raw out := by
  fun_induction decodeReferences raw generalizing out with
  | case1 =>
    cases h
    exact .nil
  | case2 => cases h
  | case3 => cases h
  | case4 rest d tail hsemi name c hc =>
    rename_i ih
    have hd : d = ';' := by
      have hhead : d ∈ (rest.dropWhile fun e => decide (e ≠ ';')).head? := by rw [hsemi]; rfl
      simpa using eq_false_of_mem_head?_dropWhile hhead
    have hrest : rest = name ++ ';' :: tail := by
      rw [← hd, ← hsemi, List.takeWhile_append_dropWhile]
    rw [hrest]
    obtain ⟨out, htail, rfl⟩ := exists_of_map_eq_ok h
    exact .reference (referenced?_eq_some_iff.1 hc) (ih htail)
  | case5 c rest hc ih =>
    obtain ⟨out, htail, rfl⟩ := exists_of_map_eq_ok h
    exact .plain hc (ih htail)

/-- **Decoding replaces what it takes for references**, and fails where an ampersand
starts none. -/
theorem decodeReferences_eq_ok_iff : decodeReferences raw = .ok out ↔ Decodes Accepted raw out :=
  ⟨decodes_of_decodeReferences, Decodes.decodeReferences⟩

/-- What stands before an ampersand goes on into the rest when it has none itself. -/
theorem exists_of_append_eq (front : List Char) {rest before after : List Char}
    (hfront : '&' ∉ front) (h : front ++ rest = before ++ '&' :: after) :
    ∃ between, before = front ++ between ∧ rest = between ++ '&' :: after := by
  induction front generalizing before with
  | nil => exact ⟨before, rfl, h⟩
  | cons d front ih =>
    rw [List.mem_cons, not_or] at hfront
    cases before with
    | nil => exact absurd (List.cons.inj h).1.symm hfront.1
    | cons e before =>
      obtain ⟨rfl, htail⟩ := List.cons.inj h
      obtain ⟨between, rfl, hrest⟩ := ih hfront.2 htail
      exact ⟨between, rfl, hrest⟩

/-- A text is decoded exactly when each of its ampersands starts a reference. -/
theorem referring_iff (hends : ∀ name c, refers name c → ';' ∉ name ∧ '&' ∉ name) :
    Referring refers raw ↔ ∃ out, Decodes refers raw out := by
  constructor
  · -- a reference takes more than one character at once, so the induction is on the length
    intro h
    induction hlength : raw.length using Nat.strong_induction_on generalizing raw with
    | _ n ih =>
      cases raw with
      | nil => exact ⟨[], .nil⟩
      | cons c cs =>
        by_cases hc : c = '&'
        · obtain ⟨name, d, rest, hname, rfl⟩ := h [] cs (by rw [hc, List.nil_append])
          have hrest : Referring refers rest := fun before after heq =>
            h (c :: (name ++ ';' :: before)) after (by simp [heq])
          have hshort : rest.length < n := by
            simp only [List.length_cons, List.length_append] at hlength
            omega
          obtain ⟨out, hout⟩ := ih rest.length hshort hrest rfl
          exact ⟨d :: out, hc ▸ .reference hname hout⟩
        · have hrest : Referring refers cs := fun before after heq =>
            h (c :: before) after (by rw [heq, List.cons_append])
          have hshort : cs.length < n := by
            rw [List.length_cons] at hlength
            omega
          obtain ⟨out, hout⟩ := ih cs.length hshort hrest rfl
          exact ⟨c :: out, .plain hc hout⟩
  · rintro ⟨out, h⟩
    induction h with
    | nil =>
      intro before after heq
      simp at heq
    | @plain c cs out hc _ ih =>
      intro before after heq
      obtain ⟨between, rfl, hrest⟩ := exists_of_append_eq [c] (by simpa using Ne.symm hc) heq
      exact ih between after hrest
    | @reference name cs out c hname _ ih =>
      intro before after heq
      cases before with
      | nil =>
        obtain ⟨-, rfl⟩ := List.cons.inj heq
        exact ⟨name, c, cs, hname, rfl⟩
      | cons e before =>
        obtain ⟨-, htail⟩ := List.cons.inj heq
        have hfront : '&' ∉ name ++ [';'] := by simp [(hends name c hname).2]
        have hbehind : (name ++ [';']) ++ cs = before ++ '&' :: after := by simpa using htail
        obtain ⟨between, -, hrest⟩ := exists_of_append_eq _ hfront hbehind
        exact ih between after hrest

/-- What decodes a text with some references decodes it with others, when those that
stand in the text are among them. -/
theorem Decodes.imp (h : Decodes refers raw out)
    (himp : ∀ before name c after, raw = before ++ '&' :: (name ++ ';' :: after) →
      refers name c → allowed name c) : Decodes allowed raw out := by
  induction h with
  | nil => exact .nil
  | @plain c cs out hc _ ih =>
    refine .plain hc (ih fun before name d after heq => himp (c :: before) name d after ?_)
    rw [heq, List.cons_append]
  | @reference name cs out c hname _ ih =>
    refine .reference (himp [] name c cs rfl hname) (ih fun before name' d after heq =>
      himp ('&' :: (name ++ ';' :: before)) name' d after ?_)
    simp [heq]

/-! ## Where decoding is as markup has it -/

/-- Decoding a text is as markup has it: it succeeds exactly when every ampersand
starts a reference, and then has replaced the references and nothing else. -/
def AsMarkup (raw : List Char) : Prop :=
  ((∃ out, decodeReferences raw = .ok out) ↔ Referring Refers raw) ∧
    ∀ out, decodeReferences raw = .ok out → Decodes Refers raw out

theorem Refers.ends_notMem (h : Refers name c) : ';' ∉ name ∧ '&' ∉ name :=
  Accepted.ends_notMem (.inl h)

/-- The nearest semicolon ends a reference, so there is only one way to read it. -/
theorem eq_of_ended {name' rest rest' : List Char} (hname : ';' ∉ name) (hname' : ';' ∉ name')
    (h : name ++ ';' :: rest = name' ++ ';' :: rest') : name = name' := by
  have hin : ∀ {front : List Char}, ';' ∉ front → ∀ d ∈ front, decide (d ≠ ';') = true := by
    intro front hfront d hd
    exact decide_eq_true fun heq => hfront (heq ▸ hd)
  have hread := (takeWhile_stretch_cons (c := ';') (hin hname) (by decide) rest).1
  have hread' := (takeWhile_stretch_cons (c := ';') (hin hname') (by decide) rest').1
  rw [← hread, h, hread']

/-- **Decoding is as markup has it unless a reference with a plus sign before its
digits is decoded**, which markup does not have. -/
theorem asMarkup_iff (raw : List Char) :
    AsMarkup raw ↔ ∀ out, decodeReferences raw = .ok out →
      ∀ before name c after, raw = before ++ '&' :: (name ++ ';' :: after) →
        ¬CodePoint ['+'] name c := by
  constructor
  · rintro ⟨hiff, -⟩ out hout before name c after hraw hplus
    obtain ⟨name', c', rest, hname', heq⟩ := hiff.1 ⟨out, hout⟩ before _ hraw
    have hname : ';' ∉ name := (Accepted.ends_notMem (.inr hplus)).1
    have hsame : name = name' := eq_of_ended hname hname'.ends_notMem.1 heq
    exact hname'.plus_notMem (hsame ▸ plus_mem_of_codePoint hplus)
  · intro hsigned
    have hdecodes : ∀ out, decodeReferences raw = .ok out → Decodes Refers raw out := by
      intro out hout
      refine (decodeReferences_eq_ok_iff.1 hout).imp fun before name c after hraw hname => ?_
      exact hname.resolve_right (hsigned out hout before name c after hraw)
    have hends : ∀ name c, Refers name c → ';' ∉ name ∧ '&' ∉ name := fun _ _ h => h.ends_notMem
    refine ⟨⟨?_, ?_⟩, hdecodes⟩
    · rintro ⟨out, hout⟩
      exact (referring_iff hends).2 ⟨out, hdecodes out hout⟩
    · intro hreferring
      obtain ⟨out, hout⟩ := (referring_iff hends).1 hreferring
      exact ⟨out, decodeReferences_eq_ok_iff.2 (hout.imp fun _ _ _ _ _ h => .inl h)⟩

/-- Zeros may lead, and what a reference has produced starts none. -/
theorem asMarkup_iff_unsigned :
    decodeReferences "&#0065;&amp;lt;&#x1F600;".toList = .ok "A&lt;😀".toList ∧
      AsMarkup "&#0065;&amp;lt;&#x1F600;".toList := by
  have hread : decodeReferences "&#0065;&amp;lt;&#x1F600;".toList = .ok "A&lt;😀".toList := by
    decide +kernel
  refine ⟨hread, (asMarkup_iff _).2 fun out _ before name c after hraw hplus => ?_⟩
  have hmem : '+' ∈ "&#0065;&amp;lt;&#x1F600;".toList := by
    rw [hraw]
    simp [plus_mem_of_codePoint hplus]
  exact absurd hmem (by decide)

/-- With a plus sign before its digits, what markup does not have is decoded. -/
theorem not_asMarkup_signed :
    decodeReferences "&#+65;".toList = .ok ['A'] ∧ ¬AsMarkup "&#+65;".toList := by
  have hread : decodeReferences "&#+65;".toList = .ok ['A'] := by
    decide +kernel
  refine ⟨hread, fun h => ?_⟩
  obtain ⟨name, c, rest, hname, heq⟩ := h.1.1 ⟨_, hread⟩ [] "#+65;".toList rfl
  have hended : "#+65".toList ++ ';' :: [] = name ++ ';' :: rest := heq
  have hsame := eq_of_ended (by decide) hname.ends_notMem.1 hended
  exact hname.plus_notMem (hsame ▸ by decide)

end Markup

end SceneScript
