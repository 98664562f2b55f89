/-!
# `FlowGraph.Text.Caseless`: comparison without regard to ASCII case

`sameLetters` compares two texts after `A` to `Z` have been written small. All other
characters count as they stand, so no letter outside ASCII matches its capital.
-/

set_option autoImplicit false

namespace FlowGraph.Text

/-- The two texts agree up to the case of ASCII letters. -/
def sameLetters (a b : String) : Bool :=
  a.toList.map Char.toLower == b.toList.map Char.toLower

/-- Texts have the same letters when they are equal in small letters. -/
theorem sameLetters_iff (a b : String) :
    sameLetters a b = true ↔ a.toList.map Char.toLower = b.toList.map Char.toLower := by
  simp [sameLetters]

/-- A text has its own letters. -/
theorem sameLetters_refl (a : String) : sameLetters a a = true := by simp [sameLetters]

/-- To have the same letters goes both ways. -/
theorem sameLetters_comm (a b : String) : sameLetters a b = sameLetters b a := by
  rw [Bool.eq_iff_iff, sameLetters_iff, sameLetters_iff, eq_comm]

end FlowGraph.Text
