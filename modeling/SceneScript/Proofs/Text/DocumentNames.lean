import Mathlib.Data.String.Basic
import SceneScript.Config
/-!
# Text — names of documents

Whether a name ends in a suffix is tested on bytes: the size of the suffix is taken off
the size of the name, the name is cut there, and what stands behind the cut is compared.
A cut is made only between two characters (`Text.dropBytes?_eq_some_iff`), and texts that
are alike up to the case of ASCII letters have the same number of bytes
(`Text.size_eq_of_alike`). So the only ending of a name that can be like the suffix begins
at the cut. Where the cut falls inside a character there is none, and the test, which then
says no, has overlooked nothing (`Config.isDocumentName_exact`).
-/

namespace SceneScript
namespace Text

/-! ## Cuts -/

theorem dropBytes?_zero (cs : List Char) : dropBytes? 0 cs = some cs := by
  rw [dropBytes?]

/-- **A cut falls between two characters**, and what stands behind it is left. -/
theorem dropBytes?_eq_some_iff {n : Nat} {cs tail : List Char} :
    dropBytes? n cs = some tail ↔ ∃ stem, cs = stem ++ tail ∧ String.utf8Len stem = n := by
  induction cs generalizing n with
  | nil =>
    cases n with
    | zero => simp [dropBytes?_zero, String.utf8Len_eq_zero]
    | succ n => simp [dropBytes?]
  | cons c cs ih =>
    cases n with
    | zero => simp [dropBytes?_zero, String.utf8Len_eq_zero]
    | succ n =>
      have hpos : 0 < c.utf8Size := c.utf8Size_pos
      rw [dropBytes?]
      constructor
      · intro h
        split at h
        next hfits =>
          obtain ⟨stem, rfl, hsize⟩ := ih.1 h
          refine ⟨c :: stem, rfl, ?_⟩
          rw [String.utf8Len_cons, hsize]
          omega
        next => cases h
      · rintro ⟨stem, hsplit, hsize⟩
        cases stem with
        | nil => cases hsize
        | cons first stem =>
          -- the first character stands before the cut, whole
          obtain ⟨rfl, rfl⟩ := List.cons.inj hsplit
          rw [String.utf8Len_cons] at hsize
          rw [if_pos (by omega)]
          exact ih.2 ⟨stem, rfl, by omega⟩

/-- A number of bytes leads between two characters of a text exactly where the text can be
cut there. -/
theorem isValid_iff_isSome_dropBytes? {n : Nat} {s : String} :
    String.Pos.Raw.IsValid s ⟨n⟩ ↔ (dropBytes? n s.toList).isSome = true := by
  rw [String.Pos.Raw.isValid_iff_exists_append, Option.isSome_iff_exists]
  constructor
  · rintro ⟨stem, tail, rfl, hsize⟩
    refine ⟨tail.toList, dropBytes?_eq_some_iff.2 ⟨stem.toList, String.toList_append, ?_⟩⟩
    rw [String.utf8Len_toList]
    exact (congrArg String.Pos.Raw.byteIdx hsize).symm
  · rintro ⟨tail, hcut⟩
    obtain ⟨stem, hsplit, hsize⟩ := dropBytes?_eq_some_iff.1 hcut
    refine ⟨String.ofList stem, String.ofList tail, ?_, ?_⟩
    · rw [← String.ofList_append, ← hsplit, String.ofList_toList]
    · rw [String.Pos.Raw.ext_iff, String.byteIdx_rawEndPos, String.utf8ByteSize_ofList, hsize]

/-! ## Sizes -/

/-- A letter has one byte in either case. -/
theorem utf8Size_toLower (c : Char) : c.toLower.utf8Size = c.utf8Size := by
  delta Char.toLower
  split
  next h =>
    have hlower : c.val.toNat + 32 ≤ 127 := by
      have hz : c.val.toNat ≤ 90 := UInt32.le_iff_toNat_le.1 h.2
      omega
    have hone : c.utf8Size = 1 := by
      rw [Char.utf8Size_eq_one_iff, UInt32.le_iff_toNat_le]
      change c.val.toNat ≤ 127
      omega
    rw [hone, Char.utf8Size_eq_one_iff, UInt32.le_iff_toNat_le, UInt32.toNat_add]
    change (c.val.toNat + 32) % 2 ^ 32 ≤ 127
    omega
  next => rfl

theorem utf8Len_folded (s : String) : String.utf8Len (folded s) = s.utf8ByteSize := by
  rw [folded, ← String.utf8Len_toList]
  induction s.toList with
  | nil => rfl
  | cons c cs ih =>
    rw [List.map_cons, String.utf8Len_cons, String.utf8Len_cons, ih, utf8Size_toLower]

/-- **Texts that are alike have the same number of bytes.** -/
theorem size_eq_of_alike {s t : String} (h : alike s t = true) :
    s.utf8ByteSize = t.utf8ByteSize := by
  rw [← utf8Len_folded, alike_iff.1 h, utf8Len_folded]

end Text

namespace Config

/-- A difference of sizes, or nothing where it would be below zero. -/
def sizeLess? (size less : Nat) : Option Nat :=
  if less ≤ size then some (size - less) else none

/-- The test of a name step by step, without an answer where a difference of sizes would be
below zero. -/
def testsName? (config : Config) (name : String) : Option Bool :=
  if config.documentSuffix = "" then some false
  else if name.utf8ByteSize ≤ config.documentSuffix.utf8ByteSize then some false
  else (sizeLess? name.utf8ByteSize config.documentSuffix.utf8ByteSize).map fun start =>
    (Text.dropBytes? start name.toList).any fun tail =>
      Text.alike (String.ofList tail) config.documentSuffix

variable {config : Config} {name : String}

/-- No difference of sizes is below zero. -/
theorem testsName?_eq (config : Config) (name : String) :
    config.testsName? name = some (config.isDocumentName name) := by
  rw [testsName?, isDocumentName]
  by_cases hsuffix : config.documentSuffix = ""
  · simp [hsuffix]
  · by_cases hsize : name.utf8ByteSize ≤ config.documentSuffix.utf8ByteSize
    · have hnot : ¬ config.documentSuffix.utf8ByteSize < name.utf8ByteSize := by omega
      simp [hsize, hnot]
    · have hlonger : config.documentSuffix.utf8ByteSize < name.utf8ByteSize := by omega
      have hless : config.documentSuffix.utf8ByteSize ≤ name.utf8ByteSize := by omega
      simp [hsuffix, hsize, hlonger, sizeLess?, hless]

/-- An ending that is like the suffix begins where the suffix is taken off the name. -/
theorem size_stem_of_alike {stem tail : String}
    (h : Text.alike tail config.documentSuffix = true) :
    (stem ++ tail).utf8ByteSize - config.documentSuffix.utf8ByteSize = stem.utf8ByteSize := by
  have hsize : tail.utf8ByteSize = config.documentSuffix.utf8ByteSize := Text.size_eq_of_alike h
  rw [String.utf8ByteSize_append]
  omega

/-- **A name is that of a document** exactly when something stands before an ending that is
like the suffix. -/
theorem isDocumentName_iff :
    config.isDocumentName name = true ↔ config.documentSuffix ≠ "" ∧
      ∃ stem tail, stem ≠ "" ∧ name = stem ++ tail ∧
        Text.alike tail config.documentSuffix = true := by
  rw [isDocumentName, Bool.and_eq_true, Bool.and_eq_true, decide_eq_true_eq, decide_eq_true_eq,
    Option.any_eq_true, and_assoc]
  refine and_congr_right fun _ => ?_
  constructor
  · rintro ⟨hlonger, tail, hcut, hlike⟩
    obtain ⟨stem, hsplit, hsize⟩ := Text.dropBytes?_eq_some_iff.1 hcut
    refine ⟨String.ofList stem, String.ofList tail, ?_, ?_, hlike⟩
    · intro hempty
      have hzero : String.utf8Len stem = 0 := by
        rw [← String.utf8ByteSize_ofList, hempty]
        rfl
      omega
    · rw [← String.ofList_append, ← hsplit, String.ofList_toList]
  · rintro ⟨stem, tail, hstem, rfl, hlike⟩
    have hcut : (stem ++ tail).utf8ByteSize - config.documentSuffix.utf8ByteSize =
        stem.utf8ByteSize := size_stem_of_alike hlike
    have hpos : stem.utf8ByteSize ≠ 0 := fun hzero =>
      hstem (String.utf8ByteSize_eq_zero_iff.1 hzero)
    refine ⟨by omega, tail.toList, ?_, ?_⟩
    · rw [hcut, Text.dropBytes?_eq_some_iff]
      exact ⟨stem.toList, String.toList_append, String.utf8Len_toList stem⟩
    · rw [String.ofList_toList]
      exact hlike

/-- **Document names are recognised exactly**, for every suffix and every name. No
difference of sizes on the way is below zero. The answer is yes exactly when the suffix is
not empty and the name is something followed by a text like the suffix. And where the cut
falls inside a character, the answer is no and no ending of the name is like the suffix. -/
theorem isDocumentName_exact (config : Config) (name : String) :
    config.testsName? name = some (config.isDocumentName name) ∧
    (config.isDocumentName name = true ↔ config.documentSuffix ≠ "" ∧
      ∃ stem tail, stem ≠ "" ∧ name = stem ++ tail ∧
        Text.alike tail config.documentSuffix = true) ∧
    (¬ String.Pos.Raw.IsValid name ⟨name.utf8ByteSize - config.documentSuffix.utf8ByteSize⟩ →
      config.isDocumentName name = false ∧
        ∀ stem tail, name = stem ++ tail → Text.alike tail config.documentSuffix = false) := by
  refine ⟨testsName?_eq config name, isDocumentName_iff, fun hinside => ?_⟩
  have hnone : ∀ stem tail, name = stem ++ tail →
      Text.alike tail config.documentSuffix = false := by
    rintro stem tail rfl
    rw [← Bool.not_eq_true]
    intro hlike
    rw [size_stem_of_alike hlike] at hinside
    exact hinside (String.Pos.Raw.isValid_iff_exists_append.2 ⟨stem, tail, rfl, rfl⟩)
  refine ⟨?_, hnone⟩
  rw [← Bool.not_eq_true]
  intro hdocument
  obtain ⟨-, stem, tail, -, hsplit, hlike⟩ := isDocumentName_iff.1 hdocument
  rw [hnone stem tail hsplit] at hlike
  cases hlike

/-- A first letter with an accent has two bytes, and the cut falls between them. -/
theorem isDocumentName_exact_accent :
    ¬ String.Pos.Raw.IsValid "\u00e9xml" ⟨1⟩ ∧
      ({} : Config).isDocumentName "\u00e9xml" = false := by
  have hinside : ¬ String.Pos.Raw.IsValid "\u00e9xml" ⟨1⟩ := by
    have hlist : "\u00e9xml".toList = ['\u00e9', 'x', 'm', 'l'] := by decide
    have hfirst : ¬ Char.utf8Size '\u00e9' ≤ 1 := by decide
    rw [Text.isValid_iff_isSome_dropBytes?, hlist, Text.dropBytes?, if_neg hfirst]
    exact Bool.false_ne_true
  exact ⟨hinside, ((isDocumentName_exact {} "\u00e9xml").2.2 hinside).1⟩

end Config
end SceneScript
