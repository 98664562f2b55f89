import FlowGraph.Json.Numeral

/-!
# `FlowGraph.Json.Tree`: what a JSON text says

`Tree.read` takes a text to a tree. Where the text stops being JSON, the tree says so in
that place and goes no further: a value that cannot be read is `broken`, and a container that
does not go on as it should is not `complete`. Whoever walks the tree in document order meets
the first fault of the text exactly when nothing before it was amiss, so texts can be refused
for what they say before they are refused for how they say it.

Strings keep track of escapes that spell half of a surrogate pair; such a string has no text.
-/

set_option autoImplicit false

namespace FlowGraph.Json

/-- A JSON text as far as it can be read. -/
inductive Tree where
  /-- What stands here is no value. -/
  | broken
  | null
  | boolean (b : Bool)
  | number (n : Numeral)
  /-- A string. One with half of a surrogate pair in it has no text. -/
  | text (s : Option String)
  /-- The items, and whether the text goes on with the end of the array behind them. -/
  | array (items : List Tree) (complete : Bool)
  /-- The members, each with what stands in the place of its key, and whether the text goes on
  with the end of the object behind them. -/
  | object (members : List (Tree × Tree)) (complete : Bool)

/-- The white space of JSON. -/
def isSpace (c : Char) : Bool := c == ' ' || c == '\t' || c == '\n' || c == '\r'

/-- A text without the white space at its front. -/
def skipSpaces (cs : List Char) : List Char := cs.dropWhile isSpace

/-! ### Strings -/

/-- The value of a hexadecimal digit. -/
def hexValue? (c : Char) : Option Nat :=
  if c.isDigit then some (c.toNat - '0'.toNat)
  else if 'a' ≤ c ∧ c ≤ 'f' then some (c.toNat - 'a'.toNat + 10)
  else if 'A' ≤ c ∧ c ≤ 'F' then some (c.toNat - 'A'.toNat + 10)
  else none

/-- The value of four hexadecimal digits. -/
def hexValue4? (a b c d : Char) : Option Nat := do
  return (((← hexValue? a) * 16 + (← hexValue? b)) * 16 + (← hexValue? c)) * 16 + (← hexValue? d)

/-- The character that a one-letter escape stands for. -/
def unescape? : Char → Option Char
  | '"' => some '"'
  | '\\' => some '\\'
  | '/' => some '/'
  | 'b' => some '\x08'
  | 'f' => some '\x0C'
  | 'n' => some '\n'
  | 'r' => some '\r'
  | 't' => some '\t'
  | _ => none

/-- The code points of a string after its opening mark, and the text after its closing one.
An escape may give a surrogate; control characters must be escaped. -/
def readString? : List Char → Option (List Nat × List Char)
  | [] => none
  | '"' :: r => some ([], r)
  | '\\' :: 'u' :: a :: b :: c :: d :: r => do
      let n ← hexValue4? a b c d
      let (ns, rest) ← readString? r
      return (n :: ns, rest)
  | '\\' :: e :: r => do
      let c ← unescape? e
      let (ns, rest) ← readString? r
      return (c.toNat :: ns, rest)
  | c :: r =>
      if c.val < 0x20 then none
      else do
        let (ns, rest) ← readString? r
        return (c.toNat :: ns, rest)

/-- The characters of code points, surrogates joined in pairs. -/
def joinPairs? : List Nat → Option (List Char)
  | [] => some []
  | hi :: ns =>
      if 0xD800 ≤ hi ∧ hi ≤ 0xDBFF then
        match ns with
        | lo :: ns' =>
            if 0xDC00 ≤ lo ∧ lo ≤ 0xDFFF then
              (joinPairs? ns').map
                (Char.ofNat (0x10000 + (hi - 0xD800) * 0x400 + (lo - 0xDC00)) :: ·)
            else none
        | [] => none
      else if 0xDC00 ≤ hi ∧ hi ≤ 0xDFFF then none
      else (joinPairs? ns).map (Char.ofNat hi :: ·)

/-! ### Numbers -/

/-- The digits at the front. -/
def digits (cs : List Char) : List Char × List Char :=
  (cs.takeWhile Char.isDigit, cs.dropWhile Char.isDigit)

/-- The fraction at the front, if there is a point. At least one digit must follow it. -/
def readFraction? : List Char → Option (List Char × List Char)
  | '.' :: r =>
      let (ds, rest) := digits r
      if ds.isEmpty then none else some (ds, rest)
  | r => some ([], r)

/-- The exponent at the front, if there is one. At least one digit must follow its sign. -/
def readExponent? : List Char → Option (Option (Bool × List Char) × List Char)
  | c :: r =>
      if c = 'e' ∨ c = 'E' then
        let (below, r) := match r with
          | '-' :: r => (true, r)
          | '+' :: r => (false, r)
          | r => (false, r)
        let (ds, rest) := digits r
        if ds.isEmpty then none else some (some (below, ds), rest)
      else some (none, c :: r)
  | [] => some (none, [])

/-- The number at the front after its sign. A zero at the front stands alone. -/
def readNumeral? (negative : Bool) (cs : List Char) : Option (Numeral × List Char) := do
  let (whole, r) := digits cs
  if whole.isEmpty || (whole.head? == some '0' && whole != ['0']) then none
  else
    let (fraction, r) ← readFraction? r
    let (exponent, r) ← readExponent? r
    return (⟨negative, whole, fraction, exponent⟩, r)

/-! ### Values -/

namespace Tree

/-- What was read, or a break in the text, after which nothing more is read. -/
def orBroken (x : Option (Tree × List Char)) : Tree × List Char := x.getD (broken, [])

/-- A fixed word, or a break. -/
def word (expected : String) (t : Tree) (cs : List Char) : Tree × List Char :=
  if expected.toList.isPrefixOf cs then (t, cs.drop expected.length) else (broken, [])

mutual

/-- The value at the front and what follows it. Nothing deeper than `fuel` is read. -/
def readValue : Nat → List Char → Tree × List Char
  | 0, _ => (broken, [])
  | fuel + 1, cs =>
      match skipSpaces cs with
      | '{' :: r =>
          match skipSpaces r with
          | '}' :: r => (object [] true, r)
          | r =>
              let (members, complete, r) := readMembers fuel r
              (object members complete, r)
      | '[' :: r =>
          match skipSpaces r with
          | ']' :: r => (array [] true, r)
          | r =>
              let (items, complete, r) := readItems fuel r
              (array items complete, r)
      | '"' :: r =>
          orBroken ((readString? r).map
            (fun x => (text ((joinPairs? x.1).map String.ofList), x.2)))
      | '-' :: r => orBroken ((readNumeral? true r).map (fun x => (number x.1, x.2)))
      | 'n' :: r => word "null" null ('n' :: r)
      | 't' :: r => word "true" (boolean true) ('t' :: r)
      | 'f' :: r => word "false" (boolean false) ('f' :: r)
      | r => orBroken ((readNumeral? false r).map (fun x => (number x.1, x.2)))

/-- The items of an array from one of them on, whether the array ends behind them, and what
follows. -/
def readItems : Nat → List Char → List Tree × Bool × List Char
  | 0, _ => ([], false, [])
  | fuel + 1, cs =>
      let (item, r) := readValue fuel cs
      match skipSpaces r with
      | ',' :: r =>
          let (items, complete, r) := readItems fuel r
          (item :: items, complete, r)
      | ']' :: r => ([item], true, r)
      | _ => ([item], false, [])

/-- The members of an object from one of them on, whether the object ends behind them, and
what follows. What is no string cannot be a key, and the object breaks there. -/
def readMembers : Nat → List Char → List (Tree × Tree) × Bool × List Char
  | 0, _ => ([], false, [])
  | fuel + 1, cs =>
      match readValue fuel cs with
      | (text key, r) =>
          match skipSpaces r with
          | ':' :: r =>
              let (value, r) := readValue fuel r
              match skipSpaces r with
              | ',' :: r =>
                  let (members, complete, r) := readMembers fuel r
                  ((text key, value) :: members, complete, r)
              | '}' :: r => ([(text key, value)], true, r)
              | _ => ([(text key, value)], false, [])
          | _ => ([(text key, broken)], false, [])
      | (key, _) => ([(key, broken)], false, [])

end

/-- The value at the front of a text and what follows it. A value that begins within the text
is less than twice as deep as the text is long. -/
def read (cs : List Char) : Tree × List Char := readValue (2 * cs.length + 2) cs

mutual

/-- Whether the text of the tree is JSON all through. The text of strings does not matter, nor
does the size of numbers. -/
def isComplete : Tree → Bool
  | broken => false
  | null => true
  | boolean _ => true
  | number _ => true
  | text _ => true
  | array items complete => complete && areComplete items
  | object members complete => complete && membersComplete members

/-- Whether all trees of a list are complete. -/
def areComplete : List Tree → Bool
  | [] => true
  | t :: ts => isComplete t && areComplete ts

/-- Whether all members have complete values under keys that are strings. -/
def membersComplete : List (Tree × Tree) → Bool
  | [] => true
  | (k, v) :: ms =>
      (match k with
      | text _ => true
      | _ => false) && isComplete v && membersComplete ms

end

end Tree

end FlowGraph.Json
