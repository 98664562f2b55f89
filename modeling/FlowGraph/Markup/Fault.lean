import FlowGraph.Markup.Chars

/-!
# `FlowGraph.Markup.Fault`: why a text is no document

A `Fault` is the cause, `Position` the row and column where it was met, and
`Fault.message` the sentence that joins them. A scanner knows a place by how much of the
text is left there; `Position.ofLeft` turns that into row and column.
-/

set_option autoImplicit false

namespace FlowGraph.Markup

/-- A place in a text: the row counts line feeds, the column characters since the last of
them, both from one. -/
structure Position where
  row : Nat
  column : Nat
deriving DecidableEq

namespace Position

/-- The place after the given characters. -/
def after (cs : List Char) : Position :=
  cs.foldl (fun p c => if c = '\n' then ⟨p.row + 1, 1⟩ else ⟨p.row, p.column + 1⟩) ⟨1, 1⟩

/-- The place in `text` at which `left` characters are still to be read. -/
def ofLeft (text : List Char) (left : Nat) : Position := after (text.take (text.length - left))

instance : ToString Position := ⟨fun p => s!"{p.row}:{p.column}"⟩

end Position

/-- Why a text is no well-formed document. -/
inductive Fault where
  /-- A character that no document may hold. -/
  | nonXmlChar (c : Char)
  /-- One character had to stand here. -/
  | expectedChar (wanted found : Char)
  /-- A character of some kind had to stand here. -/
  | expectedKind (wanted : String) (found : Char)
  /-- A fixed text had to stand here. -/
  | expectedText (wanted : String)
  /-- A name is missing or begins or goes on wrongly. -/
  | invalidName
  /-- The text ends inside a tag. -/
  | endOfText
  /-- An XML declaration after the beginning. -/
  | declarationInside
  /-- Two hyphens inside a comment, or one at its end. -/
  | commentHyphens
  /-- Markup that the grammar has no place for. -/
  | unknownToken
  /-- The end of a CDATA section in plain text. -/
  | sectionEndInText
  /-- A reference to an entity that nobody declared. -/
  | unknownEntity (name : String)
  /-- An ampersand that begins no reference. -/
  | malformedReference
  /-- The namespace of declarations is declared. -/
  | xmlnsUriDeclared
  /-- The prefix `xml` is bound to another namespace than its own. -/
  | xmlPrefixRebound
  /-- Another prefix is bound to the namespace of `xml`. -/
  | xmlUriRebound
  /-- An element declares a prefix twice. -/
  | duplicateNamespace (pfx : String)
  /-- An element carries the prefix of declarations. -/
  | xmlnsPrefixUsed
  /-- A prefix that is not declared. -/
  | unknownNamespace (pfx : String)
  /-- An element has two attributes of one expanded name. -/
  | duplicateAttribute (name : String)
  /-- An end tag that closes another element than the one that is open. -/
  | mismatchedTag (opened closed : String)
  /-- A document type declaration. -/
  | doctype
  /-- The text holds no element. -/
  | noRoot
  /-- The text ends before its root element does. -/
  | unclosedRoot
deriving DecidableEq

namespace Fault

/-- The digits of a code point in lower-case hexadecimal. -/
def hexDigits (n : Nat) : String := String.ofList (Nat.toDigits 16 n)

/-- A character that no document may hold, spelled out: zero as a backslash form of its own,
all others by their code points. -/
def spelled (c : Char) : String :=
  if c.val = 0 then "'\\0'" else "'\\u\x7b" ++ hexDigits c.toNat ++ "\x7d'"

/-- The sentence for a fault met at a place. -/
def message (p : Position) : Fault → String
  | nonXmlChar c => s!"a non-XML character " ++ spelled c ++ s!" found at {p}"
  | expectedChar wanted found => s!"expected '{wanted}' not '{leadByte found}' at {p}"
  | expectedKind wanted found => s!"expected {wanted} not '{leadByte found}' at {p}"
  | expectedText wanted => s!"expected '{wanted}' at {p}"
  | invalidName => s!"invalid name token at {p}"
  | endOfText => "unexpected end of stream"
  | declarationInside => s!"unexpected XML declaration at {p}"
  | commentHyphens => s!"comment at {p} contains '--'"
  | unknownToken => s!"unknown token at {p}"
  | sectionEndInText => s!"']]>' at {p} is not allowed inside a character data"
  | unknownEntity name => s!"unknown entity reference '{name}' at {p}"
  | malformedReference => s!"malformed entity reference at {p}"
  | xmlnsUriDeclared => s!"the 'xmlns' URI is used at {p}, but it must not be declared"
  | xmlPrefixRebound => s!"'xml' namespace prefix mapped to wrong URI at {p}"
  | xmlUriRebound => s!"the 'xml' namespace URI is used for not 'xml' prefix at {p}"
  | duplicateNamespace pfx => s!"namespace '{pfx}' at {p} is already defined"
  | xmlnsPrefixUsed => s!"the 'xmlns' prefix is used at {p}, but it must not be"
  | unknownNamespace pfx => s!"an unknown namespace prefix '{pfx}' at {p}"
  | duplicateAttribute name => s!"attribute '{name}' at {p} is already defined"
  | mismatchedTag opened closed => s!"expected '{opened}' tag, not '{closed}' at {p}"
  | doctype => "XML with DTD detected"
  | noRoot => "the document does not have a root node"
  | unclosedRoot => "the root node was opened but never closed"

end Fault

/-- A fault and the place where it was met. -/
structure Error where
  fault : Fault
  position : Position
deriving DecidableEq

/-- The sentence shown to the user. -/
def Error.message (e : Error) : String := e.fault.message e.position

end FlowGraph.Markup
