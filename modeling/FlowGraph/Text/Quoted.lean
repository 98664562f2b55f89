import FlowGraph.Text.Unprintable

/-!
# `FlowGraph.Text.Quoted`: texts as messages show them

A message that speaks about a text shows it between quotation marks, with the characters
that would blur it escaped: the quotation mark and the backslash, the common control
characters by a letter, and everything unprintable by its number.
-/

set_option autoImplicit false

namespace FlowGraph.Text

/-- The escape of a character by its number, in lower-case hexadecimal. -/
def numbered (c : Char) : String :=
  "\\u\x7b" ++ String.ofList (Nat.toDigits 16 c.toNat) ++ "\x7d"

/-- A character inside a quoted text. -/
def quotedChar (c : Char) : String :=
  match c with
  | '\x00' => "\\0"
  | '\t' => "\\t"
  | '\r' => "\\r"
  | '\n' => "\\n"
  | '\\' => "\\\\"
  | '"' => "\\\""
  | c => if isUnprintable c then numbered c else c.toString

/-- A text between quotation marks. -/
def quoted (s : String) : String := "\"" ++ String.join (s.toList.map quotedChar) ++ "\""

end FlowGraph.Text
