/-!
# `FlowGraph.Markup.Chars`: the character classes of XML

The productions `Char`, `S`, `NameStartChar` and `NameChar` of XML 1.0, fifth edition. The
colon is kept out of the name classes: in qualified names it parts the prefix from the local
name, and where a plain name may hold it the reader says so. `isNameChar_of_isNameStart`
says that what may begin a name may also stand inside it.
-/

set_option autoImplicit false

namespace FlowGraph.Markup

/-- The production `Char`: what a document may hold at all. -/
def isXmlChar (c : Char) : Bool :=
  if c.val < 0x20 then c == '\t' || c == '\n' || c == '\r'
  else c.val != 0xFFFE && c.val != 0xFFFF

/-- The production `S`: blank, tab, line feed and carriage return. -/
def isSpace (c : Char) : Bool := c == ' ' || c == '\t' || c == '\n' || c == '\r'

/-- The production `NameStartChar` without the colon. -/
def isNameStart (c : Char) : Bool :=
  let v := c.val
  c.isAlpha || c == '_' ||
  (0xC0 ≤ v && v ≤ 0xD6) || (0xD8 ≤ v && v ≤ 0xF6) || (0xF8 ≤ v && v ≤ 0x2FF) ||
  (0x370 ≤ v && v ≤ 0x37D) || (0x37F ≤ v && v ≤ 0x1FFF) || (0x200C ≤ v && v ≤ 0x200D) ||
  (0x2070 ≤ v && v ≤ 0x218F) || (0x2C00 ≤ v && v ≤ 0x2FEF) || (0x3001 ≤ v && v ≤ 0xD7FF) ||
  (0xF900 ≤ v && v ≤ 0xFDCF) || (0xFDF0 ≤ v && v ≤ 0xFFFD) || (0x10000 ≤ v && v ≤ 0xEFFFF)

/-- The production `NameChar` without the colon. -/
def isNameChar (c : Char) : Bool :=
  isNameStart c || c.isDigit || c == '-' || c == '.' || c.val == 0xB7 ||
  (0x300 ≤ c.val && c.val ≤ 0x36F) || (0x203F ≤ c.val && c.val ≤ 0x2040)

/-- A character that a name may start with may stand in it. -/
theorem isNameChar_of_isNameStart {c : Char} (h : isNameStart c = true) :
    isNameChar c = true := by simp [isNameChar, h]

/-- The first byte of a character's UTF-8 form, shown as the character of that number. A
complaint about a character that does not fit names this byte. -/
def leadByte (c : Char) : Char :=
  let v := c.val
  if v < 0x80 then c
  else if v < 0x800 then Char.ofNat (0xC0 + v.toNat / 0x40)
  else if v < 0x10000 then Char.ofNat (0xE0 + v.toNat / 0x1000)
  else Char.ofNat (0xF0 + v.toNat / 0x40000)

end FlowGraph.Markup
