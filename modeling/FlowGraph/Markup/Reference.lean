import FlowGraph.Markup.Scan

/-!
# `FlowGraph.Markup.Reference`: references inside values and text

An ampersand begins a reference: to one of the five characters that have names of their own,
or to a character by its number. `resolve` replaces all references of a raw text and, for
the value of an attribute, writes each line break or tab as one blank. A character that a
reference stands for is taken as it is.
-/

set_option autoImplicit false

namespace FlowGraph.Markup

/-- What a reference names. -/
inductive Reference where
  /-- A character. -/
  | char (c : Char)
  /-- An entity that the document would have to declare. -/
  | entity (name : String)

namespace Reference

/-- The characters that have names of their own. -/
def named : List Char → Reference
  | ['q', 'u', 'o', 't'] => .char '"'
  | ['a', 'm', 'p'] => .char '&'
  | ['a', 'p', 'o', 's'] => .char '\''
  | ['l', 't'] => .char '<'
  | ['g', 't'] => .char '>'
  | name => .entity (String.ofList name)

/-- The value of one hexadecimal digit. -/
def digitValue (c : Char) : Nat :=
  if c.isDigit then c.toNat - '0'.toNat else c.toLower.toNat - 'a'.toNat + 10

/-- The number that digits denote in a base. -/
def numeral (base : Nat) (ds : List Char) : Nat :=
  ds.foldl (fun n d => n * base + digitValue d) 0

/-- The character of a number. There must be digits, the number must fit 32 bits, and the
result must be a character that documents may hold; a number that belongs to no character
stands for the replacement character. -/
def numbered (base : Nat) (ds : List Char) : Option Reference :=
  if ds.isEmpty || UInt32.size ≤ numeral base ds then none
  else
    let n := numeral base ds
    let c := if n.isValidChar then Char.ofNat n else '\uFFFD'
    if isXmlChar c then some (.char c) else none

/-- A hexadecimal digit, in either case. -/
private def isHexDigit (c : Char) : Bool :=
  c.isDigit || ('a' ≤ c && c ≤ 'f') || ('A' ≤ c && c ≤ 'F')

/-- The reference, if the text goes on with the semicolon that ends it. -/
def closed (reference : Option Reference) (s : List Char) : Option (Reference × Rest s) :=
  match reference, s with
  | some x, ';' :: t => some (x, ⟨t, by simp⟩)
  | _, _ => none

/-- The reference after an ampersand, and the text after its semicolon. -/
def read? (s : List Char) : Option (Reference × Rest s) :=
  let inName (c : Char) : Bool := isNameChar c || c == ':'
  let (reference, r) : Option Reference × Rest s :=
    match s with
    | '#' :: 'x' :: r =>
        (numbered 16 (r.takeWhile isHexDigit), ⟨r.dropWhile isHexDigit, by
          have := Scan.length_dropWhile_le isHexDigit r; simp only [List.length_cons]; omega⟩)
    | '#' :: r =>
        (numbered 10 (r.takeWhile Char.isDigit), ⟨r.dropWhile Char.isDigit, by
          have := Scan.length_dropWhile_le Char.isDigit r; simp only [List.length_cons]; omega⟩)
    | r =>
        let name := r.takeWhile inName
        (if name.head?.any (fun c => isNameStart c || c == ':') then some (named name) else none,
          ⟨r.dropWhile inName, Scan.length_dropWhile_le _ r⟩)
  (closed reference r.val).map (fun x => (x.1, ⟨x.2.val, Nat.le_trans x.2.property r.property⟩))

end Reference

/-- Where a raw text stands: in the value of an attribute or between tags. -/
inductive RawKind where
  | value
  | content

/-- How a raw line break or tab reads. In a value it is a blank, between tags a break is a
line feed; the two characters of one break read as one. -/
def RawKind.plain (kind : RawKind) (c : Char) : Char :=
  match kind with
  | .value => if c == '\t' || c == '\n' || c == '\r' then ' ' else c
  | .content => if c == '\r' then '\n' else c

/-- A raw text with its references resolved. `after` is how much text is left behind the raw
text, from which the place of a fault is told. -/
def resolve (kind : RawKind) (after : Nat) (s : List Char) : Except Stop (List Char) :=
  match s with
  | [] => .ok []
  | '&' :: r =>
      match Reference.read? r with
      | some (.char c, rest) => (resolve kind after rest.val).map (c :: ·)
      | some (.entity name, _) => .error ⟨.unknownEntity name, r.length + 1 + after⟩
      | none => .error ⟨.malformedReference, r.length + 1 + after⟩
  | '\r' :: '\n' :: r => (resolve kind after ('\n' :: r))
  | c :: r => (resolve kind after r).map (kind.plain c :: ·)
termination_by s.length
decreasing_by
  · exact Nat.lt_succ_of_le rest.property
  · exact Nat.lt_succ_self _
  · exact Nat.lt_succ_self _

end FlowGraph.Markup
