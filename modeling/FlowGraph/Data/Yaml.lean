import FlowGraph.Data.Basic
import FlowGraph.Decimal.Basic

/-!
# `FlowGraph.Data.Yaml`: structured data as YAML text

Block style throughout: one entry a line, two blanks for every level of mappings, sequences
at the indentation of their key. A text is written in the first style of `Style` that keeps
it apart from what other values look like and that can hold all its characters:

* plain, where nothing in it reads as markup or as another value;
* in single quotation marks, where something does, or where a line or paragraph separator
  breaks it;
* as a literal block, where a line feed breaks it;
* in double quotation marks with escapes, where it holds a character that is not printable or
  blanks beside a break that the style would not keep.
-/

set_option autoImplicit false

namespace FlowGraph.Yaml

/-! ### Texts that read as something else -/

/-- Whether all characters are digits of a base and there is at least one. -/
def allDigits (isDigit : Char → Bool) (cs : List Char) : Bool := !cs.isEmpty && cs.all isDigit

/-- The value of digits in a base up to sixteen. -/
def baseValue (base : Nat) (ds : List Char) : Nat :=
  ds.foldl (fun n d => n * base +
    (if d.isDigit then d.toNat - '0'.toNat else d.toLower.toNat - 'a'.toNat + 10)) 0

/-- Whether a text after `0x`, `0o` or `0b` is a number in that base below a bound. -/
def isBasedInteger (bound : Nat) : List Char → Bool
  | '0' :: 'x' :: ds =>
      allDigits (fun c => c.isDigit || ('a' ≤ c && c ≤ 'f') || ('A' ≤ c && c ≤ 'F')) ds &&
        decide (baseValue 16 ds < bound)
  | '0' :: 'o' :: ds =>
      allDigits (fun c => '0' ≤ c && c ≤ '7') ds && decide (baseValue 8 ds < bound)
  | '0' :: 'b' :: ds =>
      allDigits (fun c => c == '0' || c == '1') ds && decide (baseValue 2 ds < bound)
  | _ => false

/-- Whether a text reads as an integer in base sixteen, eight or two that fits 128 bits, with
or without a sign. -/
def isSignedBasedInteger : List Char → Bool
  | '-' :: cs => isBasedInteger (Nat.pow 2 127 + 1) cs
  | '+' :: cs => isBasedInteger (Nat.pow 2 128) cs
  | cs => isBasedInteger (Nat.pow 2 128) cs

/-- Whether a text reads as a decimal number that rounds to a finite one. -/
def isFiniteDecimal (cs : List Char) : Bool :=
  (Decimal.read? cs).any (fun d => Decimal.isBelowOverflow d.digits d.exponent)

/-- The words for no value, the truth values and the numbers without a numeral. -/
def words : List String :=
  ["", "~", "null", "Null", "NULL", "true", "True", "TRUE", "false", "False", "FALSE",
    ".inf", ".Inf", ".INF", "+.inf", "+.Inf", "+.INF", "-.inf", "-.Inf", "-.INF",
    ".nan", ".NaN", ".NAN"]

/-- Whether a text is digits, at least two of them with a zero in front, behind at most one
sign. Readers disagree on whether such a text is a number, whatever its length. -/
def isZeroLed (cs : List Char) : Bool :=
  match (Decimal.readSign cs).2 with
  | '0' :: ds => allDigits Char.isDigit ds
  | _ => false

/-- Whether a text would be read as another value if it stood plain. -/
def readsAsOther (s : String) : Bool :=
  words.contains s || isZeroLed s.toList || isSignedBasedInteger s.toList ||
    isFiniteDecimal s.toList

/-! ### Texts that read as markup -/

/-- Whether a list begins with a blank or not at all. -/
def atBlankOrEnd : List Char → Bool
  | [] => true
  | c :: _ => c == ' '

/-- Whether a colon before a blank, or a number sign behind one, stands after the first
character. `previous` is the character before the list. -/
def hasInnerMarkup (previous : Char) : List Char → Bool
  | [] => false
  | c :: cs =>
      (c == ':' && atBlankOrEnd cs) || (c == '#' && previous == ' ') || hasInnerMarkup c cs

/-- Characters that begin markup wherever a text could stand. -/
def indicators : List Char :=
  ['#', ',', '[', ']', '{', '}', '&', '*', '!', '|', '>', '\'', '"', '%', '@', '`']

/-- What begins or ends a document at the start of a line. -/
def documentMarks : List (List Char) := [['-', '-', '-'], ['.', '.', '.']]

/-- Whether a text would be read as markup if it stood plain. -/
def readsAsMarkup (s : String) : Bool :=
  match s.toList with
  | [] => true
  | c :: cs =>
      documentMarks.any (fun mark => mark.isPrefixOf (c :: cs)) || indicators.contains c ||
        ((c == '?' || c == ':' || c == '-') && atBlankOrEnd cs) || hasInnerMarkup c cs ||
        c == ' ' || (c :: cs).getLast? == some ' '

/-! ### Characters -/

/-- Whether a character may stand in a text as it is. -/
def isPrintable (c : Char) : Bool :=
  let v := c.val
  v == 0x0A || (0x20 ≤ v && v ≤ 0x7E) || (0xA0 ≤ v && v ≤ 0xD7FF) ||
    (0xE000 ≤ v && v ≤ 0xFFFD && v != 0xFEFF) || 0x10000 ≤ v

/-- Whether a character ends a line. -/
def isBreak (c : Char) : Bool :=
  c == '\n' || c == '\r' || c.val == 0x85 || c.val == 0x2028 || c.val == 0x2029

/-- The last `width` hexadecimal digits of a number, capitals. -/
def hexDigits : Nat → Nat → List Char
  | 0, _ => []
  | width + 1, n =>
      let d := n % 16
      hexDigits width (n / 16) ++
        [if d < 10 then Char.ofNat ('0'.toNat + d) else Char.ofNat ('A'.toNat + (d - 10))]

/-- A character between double quotation marks. -/
def escape (c : Char) : List Char :=
  if c = '"' then ['\\', '"']
  else if c = '\\' then ['\\', '\\']
  else if isPrintable c && !isBreak c then [c]
  else
    match c.toNat with
    | 0x00 => ['\\', '0']
    | 0x07 => ['\\', 'a']
    | 0x08 => ['\\', 'b']
    | 0x09 => ['\\', 't']
    | 0x0A => ['\\', 'n']
    | 0x0B => ['\\', 'v']
    | 0x0C => ['\\', 'f']
    | 0x0D => ['\\', 'r']
    | 0x1B => ['\\', 'e']
    | 0x85 => ['\\', 'N']
    | 0x2028 => ['\\', 'L']
    | 0x2029 => ['\\', 'P']
    | n =>
        if n < 0x100 then '\\' :: 'x' :: hexDigits 2 n
        else if n < 0x10000 then '\\' :: 'u' :: hexDigits 4 n
        else '\\' :: 'U' :: hexDigits 8 n

/-! ### Styles -/

/-- How a text is written. -/
inductive Style where
  | plain
  | singleQuoted
  | literal
  | doubleQuoted
deriving DecidableEq

/-- Whether a blank stands before a break or at the end. A literal block does not keep it. -/
def hasLooseBlank : List Char → Bool
  | [] => false
  | c :: cs => (c == ' ' && cs.head?.all isBreak) || hasLooseBlank cs

/-- Whether a blank stands before a break or behind one. Quotation marks do not keep it. -/
def hasBlankAtBreak : List Char → Bool
  | c :: d :: cs => (c == ' ' && isBreak d) || (isBreak c && d == ' ') || hasBlankAtBreak (d :: cs)
  | _ => false

/-- The style of a text. Of the breaks, only the line feed and the two separators are printable. -/
def styleOf (s : String) : Style :=
  if s.toList.any (fun c => !isPrintable c) then .doubleQuoted
  else if s.toList.contains '\n' then
    if hasLooseBlank s.toList then .doubleQuoted else .literal
  else if s.toList.any isBreak then
    if hasBlankAtBreak s.toList then .doubleQuoted else .singleQuoted
  else if readsAsOther s || readsAsMarkup s then .singleQuoted
  else .plain

/-- Characters over several lines, each line with its indentation unless it is empty. Breaks
stand as they are. -/
def indentLines (indent : Nat) (atStart : Bool) : List Char → List Char
  | [] => []
  | c :: cs =>
      if isBreak c then c :: indentLines indent true cs
      else (if atStart then List.replicate indent ' ' else []) ++ c :: indentLines indent false cs

/-- The head of a literal block: whether the indentation has to be told, because the text
begins with a blank or a break, and how many breaks stand at the end. -/
def literalHead (cs : List Char) : List Char :=
  let hint := if cs.head?.any (fun c => c == ' ' || isBreak c) then ['2'] else []
  let chomp := match cs.reverse.map isBreak with
    | true :: true :: _ => ['+']
    | [true] => ['+']
    | true :: _ => []
    | _ => ['-']
  '|' :: hint ++ chomp

/-- A text between single quotation marks, those inside of it written twice. The mark at the end
stands on the last line like the text before it. -/
def singleQuoted (indent : Nat) (cs : List Char) : List Char :=
  '\'' :: indentLines indent false
    (cs.flatMap (fun c => if c = '\'' then [c, c] else [c]) ++ ['\''])

/-- A text below a key or an item mark in column `column`. -/
def scalar (column : Nat) (s : String) : List Char :=
  match styleOf s with
  | .plain => s.toList
  | .singleQuoted => singleQuoted (column + 2) s.toList
  | .literal => literalHead s.toList ++ '\n' :: indentLines (column + 2) true s.toList
  | .doubleQuoted => '"' :: s.toList.flatMap escape ++ ['"']

example : scalar 0 "it's\u2028here" = "'it''s\u2028  here'".toList := by decide

example : scalar 0 "a \u2028b" = "\"a \\Lb\"".toList := by decide

example : scalar 0 "a\nb\u2029" = "|\n  a\n  b\u2029".toList := by decide

/-- A text and the end of its line. A block that ends with a break is at the end of its line
already. -/
def scalarLine (column : Nat) (s : String) : List Char :=
  let cs := scalar column s
  if cs.getLast?.any isBreak then cs else cs ++ ['\n']

/-- Whether a text is too long or has too many lines to be a key before its colon. Such a key
stands behind a mark of its own, in the style in which the text would stand as a value. -/
def isLongKey (s : String) : Bool := 128 < s.utf8ByteSize || s.toList.any isBreak

/-- The indentation of a column. -/
def indentation (column : Nat) : List Char := List.replicate column ' '

mutual

/-- What follows the colon of a key in column `column`, up to the end of its last line. -/
def writeValue (column : Nat) : Data → List Char
  | .number n => ' ' :: (toString n).toList ++ ['\n']
  | .text s => ' ' :: scalarLine column s
  | .sequence [] => [' ', '[', ']', '\n']
  | .sequence (x :: xs) => '\n' :: writeItems column (x :: xs)
  | .mapping [] => [' ', '{', '}', '\n']
  | .mapping (e :: es) =>
      '\n' :: indentation (column + 2) ++ writeEntries (column + 2) (e :: es)

/-- What follows a mark of its own on the same line: the mark of an item or of the value of a
long key. `column` is where the value begins. -/
def writeInline (column : Nat) : Data → List Char
  | .number n => (toString n).toList ++ ['\n']
  | .text s => scalarLine (column - 2) s
  | .sequence [] => ['[', ']', '\n']
  | .sequence (x :: xs) =>
      '-' :: ' ' :: writeInline (column + 2) x ++ writeItems column xs
  | .mapping [] => ['{', '}', '\n']
  | .mapping (e :: es) => writeEntries column (e :: es)

/-- The items of a sequence, their marks in column `column`. -/
def writeItems (column : Nat) : List Data → List Char
  | [] => []
  | x :: xs =>
      indentation column ++ '-' :: ' ' :: writeInline (column + 2) x ++ writeItems column xs

/-- The entries of a mapping, their keys in column `column`. The first stands where it is
put; each of the others on a line of its own. -/
def writeEntries (column : Nat) : List (String × Data) → List Char
  | [] => []
  | (k, v) :: es =>
      (if isLongKey k then
        '?' :: ' ' :: scalarLine column k ++ indentation column ++ ':' :: ' ' ::
          writeInline (column + 2) v
      else scalar column k ++ ':' :: writeValue column v) ++
      (match es with
      | [] => []
      | _ :: _ => indentation column) ++ writeEntries column es

end

/-- A value as a document of its own. -/
def render (d : Data) : String := String.ofList (writeInline 0 d)

end FlowGraph.Yaml
