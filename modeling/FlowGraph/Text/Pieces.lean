/-!
# `FlowGraph.Text.Pieces`: cutting a text at a mark

`pieces` cuts a text at every occurrence of one character, and `glue` puts the character
back between the pieces. `glue_pieces` says that nothing is lost, `not_mem_of_mem_pieces`
that no piece holds the mark.
-/

set_option autoImplicit false

namespace FlowGraph.Text

/-- The stretches between the occurrences of `mark`. A text with `n` marks has `n + 1`
pieces, and any of them may be empty. -/
def pieces (mark : Char) : List Char → List (List Char)
  | [] => [[]]
  | c :: cs =>
      if c = mark then [] :: pieces mark cs
      else
        match pieces mark cs with
        | [] => [[c]]
        | p :: ps => (c :: p) :: ps

/-- The pieces one after another, with `mark` between them. -/
def glue (mark : Char) (ps : List (List Char)) : List Char :=
  List.intercalate [mark] ps

/-- There is always a piece, of the empty text the empty one. -/
theorem pieces_ne_nil (mark : Char) (cs : List Char) : pieces mark cs ≠ [] := by
  cases cs with
  | nil => simp [pieces]
  | cons c cs =>
      rw [pieces]
      split
      · simp
      · split <;> simp

/-- Cutting loses nothing: the glued pieces are the text. -/
theorem glue_pieces (mark : Char) (cs : List Char) : glue mark (pieces mark cs) = cs := by
  induction cs with
  | nil => rfl
  | cons c cs ih =>
      rw [pieces]
      cases hp : pieces mark cs with
      | nil => exact absurd hp (pieces_ne_nil mark cs)
      | cons p ps =>
          rw [hp] at ih
          split
          · next h =>
              subst h
              rw [← ih]
              simp [glue, List.intercalate]
          · rw [← ih]
            cases ps <;> simp [glue, List.intercalate]

/-- No piece holds the mark that the text was cut at. -/
theorem not_mem_of_mem_pieces {mark : Char} {cs p : List Char} (h : p ∈ pieces mark cs) :
    mark ∉ p := by
  induction cs generalizing p with
  | nil => simp [pieces] at h; simp [h]
  | cons c cs ih =>
      rw [pieces] at h
      split at h
      · rcases List.mem_cons.1 h with rfl | h
        · simp
        · exact ih h
      · next hc =>
          cases hp : pieces mark cs with
          | nil => exact absurd hp (pieces_ne_nil mark cs)
          | cons q qs =>
              rw [hp] at h ih
              rcases List.mem_cons.1 h with rfl | h
              · have := ih (List.mem_cons_self ..)
                simp [this, Ne.symm hc]
              · exact ih (List.mem_cons_of_mem _ h)

end FlowGraph.Text
