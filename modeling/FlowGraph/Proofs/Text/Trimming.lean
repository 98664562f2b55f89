import Mathlib.Data.List.TakeWhile
import FlowGraph.Text.Blank
import FlowGraph.Text.Pieces

/-!
# `FlowGraph.Proofs.Text.Trimming`: trimming and cutting, told from their results

`Text.trimChars` drops blanks from the two ends of a text, and `Text.pieces` cuts a text at a mark.
Here each is told from what comes out:

* `isTrimmed_iff`: what is left is a stretch between blanks that itself neither begins nor ends with
  one. There is exactly one such stretch, so trimming twice is trimming once.
* `pieces_eq_iff`: the pieces are texts without the mark that give the whole text back when they
  are glued. There is exactly one list of such texts.
-/

set_option autoImplicit false

namespace FlowGraph.Text

/-! ### Trimming -/

/-- The stretch `ts` is `cs` without the blanks at its two ends. -/
structure IsTrimmed (cs ts : List Char) : Prop where
  between : ∃ front back, cs = front ++ ts ++ back ∧ (∀ c ∈ front, isBlank c = true) ∧
    ∀ c ∈ back, isBlank c = true
  first : ∀ c ∈ ts.head?, isBlank c = false
  last : ∀ c ∈ ts.getLast?, isBlank c = false

/-- Nothing is dropped from the front of a text that does not begin with a blank. -/
theorem dropWhile_isBlank_eq_self {cs : List Char} (h : ∀ c ∈ cs.head?, isBlank c = false) :
    cs.dropWhile isBlank = cs := by
  cases cs with
  | nil => rfl
  | cons c cs =>
      have hc : isBlank c = false := h c rfl
      rw [List.dropWhile_cons, hc]
      rfl

/-- What is left when the front is dropped does not begin with a blank. -/
theorem isBlank_head?_dropWhile {cs : List Char} {c : Char}
    (h : c ∈ (cs.dropWhile isBlank).head?) : isBlank c = false := by
  have hnot := List.head?_dropWhile_not isBlank cs
  rw [Option.mem_def.1 h] at hnot
  simpa using hnot

/-- What is left after trimming is trimmed: blanks were dropped at both ends, and no others. -/
theorem isTrimmed_trimChars (cs : List Char) : IsTrimmed cs (trimChars cs) := by
  -- First the front is cut off, then the back, from the other end.
  have hfront := List.takeWhile_append_dropWhile (p := isBlank) (l := cs)
  have hback := List.takeWhile_append_dropWhile (p := isBlank)
    (l := (cs.dropWhile isBlank).reverse)
  have hrest : cs.dropWhile isBlank
      = trimChars cs ++ ((cs.dropWhile isBlank).reverse.takeWhile isBlank).reverse := by
    rw [trimChars, ← List.reverse_append, hback, List.reverse_reverse]
  refine ⟨⟨cs.takeWhile isBlank, ((cs.dropWhile isBlank).reverse.takeWhile isBlank).reverse,
    ?_, ?_, ?_⟩, ?_, ?_⟩
  · rw [List.append_assoc, ← hrest, hfront]
  · exact fun c hc => List.mem_takeWhile_imp hc
  · exact fun c hc => List.mem_takeWhile_imp (List.mem_reverse.1 hc)
  · intro c hc
    -- The first character is that of what was left when the front was cut off.
    have hhead : c ∈ (cs.dropWhile isBlank).head? := by
      rw [hrest, List.head?_append, Option.mem_def.1 hc]
      rfl
    exact isBlank_head?_dropWhile hhead
  · intro c hc
    rw [trimChars, List.getLast?_reverse] at hc
    exact isBlank_head?_dropWhile hc

/-- What is left by trimming is the one stretch between blanks that neither begins nor ends with a
blank. -/
theorem isTrimmed_iff {cs ts : List Char} : IsTrimmed cs ts ↔ trimChars cs = ts := by
  constructor
  · rintro ⟨⟨front, back, rfl, hfront, hback⟩, hfirst, hlast⟩
    cases ts with
    | nil =>
        rw [trimChars_eq_nil_iff]
        simpa using fun c hc => hc.elim (hfront c) (hback c)
    | cons t ts =>
        have hdrop : ((front ++ t :: ts ++ back).dropWhile isBlank) = t :: ts ++ back := by
          rw [List.append_assoc, List.dropWhile_append_of_pos hfront]
          exact dropWhile_isBlank_eq_self hfirst
        rw [trimChars, hdrop, List.reverse_append,
          List.dropWhile_append_of_pos (fun c hc => hback c (List.mem_reverse.1 hc)),
          dropWhile_isBlank_eq_self (by rwa [List.head?_reverse]), List.reverse_reverse]
  · rintro rfl
    exact isTrimmed_trimChars cs

/-- Trimming twice is trimming once. -/
theorem trimChars_trimChars (cs : List Char) : trimChars (trimChars cs) = trimChars cs := by
  have h := isTrimmed_trimChars cs
  exact isTrimmed_iff.1 ⟨⟨[], [], by simp, by simp, by simp⟩, h.first, h.last⟩

/-- Trimming adds no character. -/
theorem mem_of_mem_trimChars {cs : List Char} {c : Char} (h : c ∈ trimChars cs) : c ∈ cs := by
  obtain ⟨front, back, hcs, -⟩ := (isTrimmed_trimChars cs).between
  rw [hcs]
  exact List.mem_append_left _ (List.mem_append_right _ h)

/-! ### Cutting -/

section Pieces

variable {mark : Char} {cs : List Char}

/-- One character more begins a piece of its own if it is the mark, and else the first piece. -/
theorem pieces_cons (mark c : Char) (cs : List Char) : pieces mark (c :: cs)
    = if c = mark then [] :: pieces mark cs else (pieces mark cs).modifyHead (c :: ·) := by
  rw [pieces]
  cases hp : pieces mark cs with
  | nil => exact absurd hp (pieces_ne_nil mark cs)
  | cons p ps => rfl

/-- The pieces of a text are those that the library splits a list into. -/
theorem pieces_eq_splitOn (mark : Char) (cs : List Char) : pieces mark cs = cs.splitOn mark := by
  induction cs with
  | nil => rfl
  | cons c cs ih =>
      show _ = List.splitOnP (· == mark) (c :: cs)
      rw [pieces_cons, ih, List.splitOnP_cons_eq_if_modifyHead]
      simp only [beq_iff_eq]
      rfl

/-- The pieces of a text are the one list of texts without the mark that are glued to it. -/
theorem pieces_eq_iff {ps : List (List Char)} :
    pieces mark cs = ps ↔ ps ≠ [] ∧ (∀ p ∈ ps, mark ∉ p) ∧ glue mark ps = cs := by
  constructor
  · rintro rfl
    exact ⟨pieces_ne_nil mark cs, fun p hp => not_mem_of_mem_pieces hp, glue_pieces mark cs⟩
  · rintro ⟨hne, hmark, rfl⟩
    rw [pieces_eq_splitOn]
    exact List.splitOn_intercalate mark hmark hne

/-- A character other than the mark is in the text exactly if it is in a piece. -/
theorem mem_iff_mem_pieces {c : Char} (h : c ≠ mark) :
    c ∈ cs ↔ ∃ p ∈ pieces mark cs, c ∈ p := by
  induction cs with
  | nil => simp [pieces]
  | cons d ds ih =>
      rw [pieces_cons, List.mem_cons, ih]
      cases hp : pieces mark ds with
      | nil => exact absurd hp (pieces_ne_nil mark ds)
      | cons p ps =>
          split
          · next hd => simp [hd, h]
          · simp [or_assoc]

end Pieces

end FlowGraph.Text
