import Mathlib.Data.List.DropRight
import SceneScript.Text.Alphabetic
import SceneScript.Text.Blank
import SceneScript.Text.Numeric
/-!
# Text — blanks, and what trimming leaves

A text is tight when there is something of it and no blank at either end.
Trimming leaves a tight text of everything that is not all blank, and leaves
tight texts alone; two tight texts with a space between them are one. No
blank is a letter or a numeral.
-/

namespace SceneScript

namespace Text

/-- Nonempty, and without a blank at either end. -/
structure Tight (cs : List Char) : Prop where
  head : ∃ c, cs.head? = some c ∧ isBlank c = false
  last : ∃ c, cs.getLast? = some c ∧ isBlank c = false

theorem Tight.ne_nil {cs : List Char} (h : Tight cs) : cs ≠ [] := by
  rintro rfl
  obtain ⟨c, hc, -⟩ := h.head
  cases hc

theorem trimmed_eq_rdropWhile (cs : List Char) :
    trimmed cs = (cs.dropWhile isBlank).rdropWhile isBlank := rfl

/-- What is tight is left alone. -/
theorem Tight.trimmed_eq {cs : List Char} (h : Tight cs) : trimmed cs = cs := by
  obtain ⟨c, hc, hhead⟩ := h.head
  obtain ⟨d, hd, hlast⟩ := h.last
  have hdrop : cs.dropWhile isBlank = cs := by
    obtain ⟨rest, rfl⟩ := List.head?_eq_some_iff.1 hc
    simp [hhead]
  rw [trimmed_eq_rdropWhile, hdrop, List.rdropWhile_eq_self_iff]
  intro hne
  rw [List.getLast?_eq_getLast_of_ne_nil hne, Option.some.injEq] at hd
  simp [hd, hlast]

/-- What starts with no blank and is trimmed at its end is tight. -/
theorem tight_rdropWhile {c : Char} (rest : List Char) (hc : isBlank c = false) :
    Tight ((c :: rest).rdropWhile isBlank) := by
  have hne : (c :: rest).rdropWhile isBlank ≠ [] := by
    rw [ne_eq, List.rdropWhile_eq_nil_iff]
    intro h
    have := h c List.mem_cons_self
    rw [hc] at this
    cases this
  refine ⟨?_, _, List.getLast?_eq_getLast_of_ne_nil hne, ?_⟩
  · obtain ⟨d, kept, hkept⟩ := List.exists_cons_of_ne_nil hne
    have hprefix := List.rdropWhile_prefix (p := isBlank) (l := c :: rest)
    rw [hkept, List.cons_prefix_cons] at hprefix
    exact ⟨c, by rw [hkept, hprefix.1]; rfl, hc⟩
  · exact Bool.eq_false_iff.2 (List.rdropWhile_last_not isBlank _ hne)

/-- **Trimming leaves a tight text**, unless all is blank. -/
theorem tight_trimmed {cs : List Char} (h : cs.all isBlank = false) : Tight (trimmed cs) := by
  have hne : cs.dropWhile isBlank ≠ [] := by
    intro hnil
    rw [List.dropWhile_eq_nil_iff] at hnil
    rw [List.all_eq_true.2 hnil] at h
    cases h
  obtain ⟨c, rest, hrest⟩ := List.exists_cons_of_ne_nil hne
  have hc : isBlank c = false := by
    have hhead := List.head_dropWhile_not isBlank hne
    simpa [hrest] using hhead
  rw [trimmed_eq_rdropWhile, hrest]
  exact tight_rdropWhile rest hc

/-- To be tight is to be something that trimming leaves alone. -/
theorem tight_iff {cs : List Char} : Tight cs ↔ cs ≠ [] ∧ trimmed cs = cs := by
  constructor
  · exact fun h => ⟨h.ne_nil, h.trimmed_eq⟩
  · rintro ⟨hne, htrim⟩
    rw [← htrim]
    refine tight_trimmed (Bool.eq_false_iff.2 fun hall => hne ?_)
    have hnil : cs.dropWhile isBlank = [] := List.dropWhile_eq_nil_iff.2 (List.all_eq_true.1 hall)
    rw [← htrim, trimmed_eq_rdropWhile, hnil]
    rfl

theorem tight_toList_iff {s : String} : Tight s.toList ↔ s ≠ "" ∧ trim s = s := by
  have htrim : trim s = s ↔ trimmed s.toList = s.toList := by
    rw [← String.toList_inj, trim, String.toList_ofList]
  have hempty : s ≠ "" ↔ s.toList ≠ [] := by simp
  rw [tight_iff, htrim, hempty]

/-- Two tight texts with a space between them are tight. -/
theorem Tight.join {cs ds : List Char} (hc : Tight cs) (hd : Tight ds) :
    Tight (cs ++ ' ' :: ds) := by
  obtain ⟨c, hhead, hcblank⟩ := hc.head
  obtain ⟨d, hlast, hdblank⟩ := hd.last
  refine ⟨⟨c, ?_, hcblank⟩, d, ?_, hdblank⟩
  · rw [List.head?_append, hhead]
    rfl
  · rw [List.getLast?_append, List.getLast?_cons, hlast]
    rfl

/-- What is tight is not all blank. -/
theorem Tight.all_eq_false {cs : List Char} (h : Tight cs) : cs.all isBlank = false := by
  obtain ⟨c, hc, hblank⟩ := h.head
  obtain ⟨rest, rfl⟩ := List.head?_eq_some_iff.1 hc
  simp [hblank]

/-! ## Blanks, letters and numerals -/

/-- A code point of a class lies in a range of it. -/
theorem Ranges.exists_mem_of_has {ranges : Ranges} {n : Nat} (h : ranges.has n = true) :
    ∃ range ∈ ranges, range.1 ≤ n ∧ n ≤ range.2 := by
  induction ranges with
  | nil => cases h
  | cons range rest ih =>
    rw [Ranges.has] at h
    split at h
    next => cases h
    next hlow =>
      rw [Bool.or_eq_true, decide_eq_true_eq] at h
      rcases h with hhigh | hrest
      · exact ⟨range, List.mem_cons_self, by omega, hhigh⟩
      · obtain ⟨other, hmem, hin⟩ := ih hrest
        exact ⟨other, List.mem_cons_of_mem _ hmem, hin⟩

/-- What lies in a class lies in none whose ranges are all apart from its own. -/
theorem Ranges.has_eq_false_of_apart {ranges others : Ranges} {n : Nat}
    (hapart : ∀ range ∈ ranges, ∀ other ∈ others, range.2 < other.1 ∨ other.2 < range.1)
    (h : ranges.has n = true) : others.has n = false := by
  by_contra hother
  rw [Bool.not_eq_false] at hother
  obtain ⟨range, hrange, _, _⟩ := exists_mem_of_has h
  obtain ⟨other, hmem, _, _⟩ := exists_mem_of_has hother
  have := hapart range hrange other hmem
  omega

/-- **No blank is a letter.** -/
theorem isAlphabetic_of_isBlank {c : Char} (h : isBlank c = true) : isAlphabetic c = false :=
  Ranges.has_eq_false_of_apart (by decide +kernel) h

/-- **No blank is a numeral.** -/
theorem isNumeric_of_isBlank {c : Char} (h : isBlank c = true) : isNumeric c = false :=
  Ranges.has_eq_false_of_apart (by decide +kernel) h

end Text

end SceneScript
