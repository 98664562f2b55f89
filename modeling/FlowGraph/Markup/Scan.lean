import FlowGraph.Markup.Fault

/-!
# `FlowGraph.Markup.Scan`: reading a text from its front

A `Scan` takes characters off the front of a text. Its type says that what is left is never
longer than what was given, so a loop that takes at least one character itself ends by the
length of the text. A scan that fails names the fault and how much text was left when it was
met.
-/

set_option autoImplicit false

namespace FlowGraph.Markup

/-- A fault and the amount of text that was left when it was met. -/
structure Stop where
  fault : Fault
  left : Nat

/-- What is left of `s`. -/
abbrev Rest (s : List Char) : Type := { r : List Char // r.length ≤ s.length }

/-- A reader of the front of a text. -/
def Scan (α : Type) : Type := (s : List Char) → Except Stop (α × Rest s)

namespace Scan

variable {α β : Type}

/-- Takes nothing. -/
protected def pure (a : α) : Scan α := fun s => .ok (a, ⟨s, Nat.le_refl _⟩)

/-- One reader after another. -/
protected def bind (x : Scan α) (f : α → Scan β) : Scan β := fun s =>
  match x s with
  | .error stop => .error stop
  | .ok (a, r) =>
      match f a r.val with
      | .error stop => .error stop
      | .ok (b, r') => .ok (b, ⟨r'.val, Nat.le_trans r'.property r.property⟩)

instance : Monad Scan where
  pure := Scan.pure
  bind := Scan.bind

/-- What is still to be read. -/
def rest : Scan (List Char) := fun s => .ok (s, ⟨s, Nat.le_refl _⟩)

/-- How much is still to be read. -/
def left : Scan Nat := fun s => .ok (s.length, ⟨s, Nat.le_refl _⟩)

/-- Fails at an earlier place. -/
def failAt (left : Nat) (fault : Fault) : Scan α := fun _ => .error ⟨fault, left⟩

/-- Fails here. -/
def fail (fault : Fault) : Scan α := fun s => .error ⟨fault, s.length⟩

/-- What is left of a text is not longer than the text. -/
theorem length_dropWhile_le (p : Char → Bool) (s : List Char) :
    (s.dropWhile p).length ≤ s.length := (List.dropWhile_sublist p).length_le

/-- The characters of a class at the front. -/
def takeWhile (p : Char → Bool) : Scan (List Char) := fun s =>
  .ok (s.takeWhile p, ⟨s.dropWhile p, length_dropWhile_le p s⟩)

/-- Drops white space at the front. -/
def spaces : Scan Unit := fun s => .ok ((), ⟨s.dropWhile isSpace, length_dropWhile_le _ s⟩)

/-- Takes `n` characters, or all if there are fewer. -/
def skip (n : Nat) : Scan Unit := fun s => .ok ((), ⟨s.drop n, by simp⟩)

/-- The next character, which stays where it is. -/
def peek : Scan Char := fun s =>
  match s with
  | [] => .error ⟨.endOfText, 0⟩
  | c :: r => .ok (c, ⟨c :: r, Nat.le_refl _⟩)

/-- Takes one given character. -/
def char (wanted : Char) : Scan Unit := fun s =>
  match s with
  | [] => .error ⟨.endOfText, 0⟩
  | c :: r =>
      if c = wanted then .ok ((), ⟨r, Nat.le_succ _⟩)
      else .error ⟨.expectedChar wanted c, r.length + 1⟩

/-- Takes a given text. -/
def text (wanted : String) : Scan Unit := fun s =>
  if wanted.toList.isPrefixOf s then .ok ((), ⟨s.drop wanted.length, by simp⟩)
  else .error ⟨.expectedText wanted, s.length⟩

/-- The characters before the first place at which `stop` holds of what is left, or all of
them. Each must be a character that documents may hold. -/
def before (stop : List Char → Bool) : Scan (List Char)
  | [] => .ok ([], ⟨[], Nat.le_refl _⟩)
  | c :: r =>
      if isXmlChar c then
        if stop (c :: r) then .ok ([], ⟨c :: r, Nat.le_refl _⟩)
        else
          match before stop r with
          | .error e => .error e
          | .ok (taken, rest) => .ok (c :: taken, ⟨rest.val, Nat.le_succ_of_le rest.property⟩)
      else .error ⟨.nonXmlChar c, r.length + 1⟩

/-- The characters before the first occurrence of `mark`, which is taken too. -/
def through (mark : String) : Scan (List Char) := do
  let taken ← before (fun s => mark.toList.isPrefixOf s)
  text mark
  return taken

end Scan

end FlowGraph.Markup
