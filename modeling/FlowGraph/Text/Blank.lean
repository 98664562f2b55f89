/-!
# `FlowGraph.Text.Blank`: white space and trimming

The characters with the Unicode property `White_Space`, and `trim`, which drops them at
both ends of a text. The statements:

* `isBlank_of_isWhitespace`: every character that Lean's own class calls white space is
  blank, so the table is never narrower than the ASCII one.
* `trim_eq_empty_iff`: a text trims to nothing exactly when all of it is blank.
-/

set_option autoImplicit false

namespace FlowGraph.Text

/-- The Unicode property `White_Space`. Zero-width spaces (`U+200B`, `U+FEFF`), the Mongolian
vowel separator and the information separators below `U+0020` are not in it. -/
def isBlank (c : Char) : Bool :=
  (0x09 ≤ c.val && c.val ≤ 0x0D) || c.val == 0x20 || c.val == 0x85 || c.val == 0xA0 ||
  c.val == 0x1680 || (0x2000 ≤ c.val && c.val ≤ 0x200A) || c.val == 0x2028 ||
  c.val == 0x2029 || c.val == 0x202F || c.val == 0x205F || c.val == 0x3000

/-- A text without the blanks at its two ends. -/
def trimChars (cs : List Char) : List Char :=
  ((cs.dropWhile isBlank).reverse.dropWhile isBlank).reverse

/-- A text without the blanks at its two ends; blanks between other characters stay. -/
def trim (s : String) : String := String.ofList (trimChars s.toList)

/-- White space is blank; more characters are. -/
theorem isBlank_of_isWhitespace {c : Char} (h : c.isWhitespace = true) : isBlank c = true := by
  simp only [Char.isWhitespace, Bool.or_eq_true, decide_eq_true_eq] at h
  rcases h with ((rfl | rfl) | rfl) | rfl <;> decide

/-- Dropping a class from the front leaves nothing exactly when all is in the class. -/
theorem dropWhile_isBlank_eq_nil_iff (cs : List Char) :
    cs.dropWhile isBlank = [] ↔ ∀ c ∈ cs, isBlank c = true := by
  induction cs with
  | nil => simp
  | cons c cs ih => by_cases h : isBlank c = true <;> simp [h, ih]

/-- Nothing is left of blanks, and only of blanks. -/
theorem trimChars_eq_nil_iff (cs : List Char) :
    trimChars cs = [] ↔ ∀ c ∈ cs, isBlank c = true := by
  constructor
  · intro h
    rw [trimChars, List.reverse_eq_nil_iff, dropWhile_isBlank_eq_nil_iff] at h
    have hdrop : cs.dropWhile isBlank = [] := by
      cases hd : cs.dropWhile isBlank with
      | nil => rfl
      | cons d ds =>
          have hd' : isBlank d = true := h d (by simp [hd])
          have := List.head?_dropWhile_not isBlank cs
          simp [hd, hd'] at this
    exact (dropWhile_isBlank_eq_nil_iff cs).1 hdrop
  · intro h
    simp [trimChars, (dropWhile_isBlank_eq_nil_iff cs).2 h]

/-- A text trims to nothing exactly when every character of it is blank. -/
theorem trim_eq_empty_iff (s : String) : trim s = "" ↔ ∀ c ∈ s.toList, isBlank c = true := by
  rw [← trimChars_eq_nil_iff, trim]
  constructor
  · intro h
    have := congrArg String.toList h
    simpa using this
  · intro h
    simp [h]

end FlowGraph.Text
