import FlowGraph.Data.Basic

/-!
# `FlowGraph.Json.Writer`: structured data as JSON text

`write` has two layouts: one line without blanks, or one value a line with two blanks for
every level. In strings the quotation mark, the backslash and the control characters are
escaped, all else stands as it is. `escape_of_le` says so for everything from the blank on.
-/

set_option autoImplicit false

namespace FlowGraph.Json

/-- How values are set out. -/
inductive Layout where
  /-- No blank and no line break. -/
  | compact
  /-- One value a line, two blanks deeper for every level. -/
  | indented
deriving DecidableEq

/-- The digit of a value below sixteen. -/
def hexDigit (n : Nat) : Char :=
  if n < 10 then Char.ofNat ('0'.toNat + n) else Char.ofNat ('a'.toNat + (n - 10))

/-- A character inside a string. -/
def escape (c : Char) : List Char :=
  if c = '"' then ['\\', '"']
  else if c = '\\' then ['\\', '\\']
  else if c = '\n' then ['\\', 'n']
  else if c = '\r' then ['\\', 'r']
  else if c = '\t' then ['\\', 't']
  else if c.val = 0x08 then ['\\', 'b']
  else if c.val = 0x0C then ['\\', 'f']
  else if c.val < 0x20 then
    ['\\', 'u', '0', '0', hexDigit (c.toNat / 16), hexDigit (c.toNat % 16)]
  else [c]

/-- A string with its quotation marks. -/
def quote (s : String) : List Char := '"' :: s.toList.flatMap escape ++ ['"']

namespace Layout

/-- What stands before a value on level `depth` of a container. -/
def gap (l : Layout) (depth : Nat) : List Char :=
  match l with
  | compact => []
  | indented => '\n' :: List.replicate (2 * depth) ' '

/-- What stands between a key and its value. -/
def colon (l : Layout) : List Char :=
  match l with
  | compact => [':']
  | indented => [':', ' ']

end Layout

mutual

/-- A value on a level. -/
def write (l : Layout) (depth : Nat) : Data → List Char
  | .number n => (toString n).toList
  | .text s => quote s
  | .sequence [] => ['[', ']']
  | .sequence (x :: xs) =>
      '[' :: l.gap (depth + 1) ++ write l (depth + 1) x ++ writeItems l depth xs
  | .mapping [] => ['{', '}']
  | .mapping ((k, v) :: es) =>
      '{' :: l.gap (depth + 1) ++ quote k ++ l.colon ++ write l (depth + 1) v ++
        writeEntries l depth es

/-- The items after the first of a sequence, and its end. -/
def writeItems (l : Layout) (depth : Nat) : List Data → List Char
  | [] => l.gap depth ++ [']']
  | x :: xs => ',' :: l.gap (depth + 1) ++ write l (depth + 1) x ++ writeItems l depth xs

/-- The entries after the first of a mapping, and its end. -/
def writeEntries (l : Layout) (depth : Nat) : List (String × Data) → List Char
  | [] => l.gap depth ++ ['}']
  | (k, v) :: es =>
      ',' :: l.gap (depth + 1) ++ quote k ++ l.colon ++ write l (depth + 1) v ++
        writeEntries l depth es

end

/-- A value as a text of its own. -/
def render (l : Layout) (d : Data) : String := String.ofList (write l 0 d)

/-- From the blank on, only the quotation mark and the backslash are escaped. -/
theorem escape_of_le {c : Char} (h : 0x20 ≤ c.val) (hq : c ≠ '"') (hb : c ≠ '\\') :
    escape c = [c] := by
  have hlt : ¬ c.val < 0x20 := UInt32.not_lt.2 h
  have hne (d : Char) (hd : d.val < 0x20) : c ≠ d := fun he => hlt (he ▸ hd)
  have h8 : c.val ≠ 0x08 := fun he => hlt (he ▸ by decide)
  have hC : c.val ≠ 0x0C := fun he => hlt (he ▸ by decide)
  simp [escape, hq, hb, hne '\n' (by decide), hne '\r' (by decide), hne '\t' (by decide), h8, hC,
    hlt]

end FlowGraph.Json
