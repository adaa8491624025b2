/-!
# Text — likeness up to the case of ASCII letters

Tags, scene names, events and document suffixes are matched without
regard to the case of the letters `A` to `Z`; every other character, the
letters of other scripts included, has to be the same. Likeness is equality
of folded texts, so it is an equivalence.
-/

namespace SceneScript
namespace Text

/-- The characters of a text, with `A` to `Z` turned into `a` to `z`. -/
def folded (s : String) : List Char :=
  s.toList.map Char.toLower

/-- Whether two texts differ at most in the case of ASCII letters. -/
def alike (s t : String) : Bool :=
  folded s == folded t

theorem alike_iff {s t : String} : alike s t = true ↔ folded s = folded t := by
  simp [alike]

@[simp] theorem alike_refl (s : String) : alike s s = true := by
  simp [alike]

theorem alike_comm (s t : String) : alike s t = alike t s :=
  BEq.comm

theorem alike_trans {s t u : String} (h : alike s t = true) (h' : alike t u = true) :
    alike s u = true :=
  alike_iff.2 ((alike_iff.1 h).trans (alike_iff.1 h'))

/-- Alike texts are like the same texts. -/
theorem alike_congr {s t : String} (h : alike s t = true) (u : String) :
    alike s u = alike t u := by
  rw [alike, alike, alike_iff.1 h]

end Text
end SceneScript
