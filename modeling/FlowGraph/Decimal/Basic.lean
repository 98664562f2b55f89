/-!
# `FlowGraph.Decimal.Basic`: decimal numerals and what they denote

Three readers of ASCII digits share one value, `digitsValue`:

* `readUInt32?` reads a number of 32 bits. The value is computed without bound and compared
  once, so no digit string wraps around and leading zeros cost nothing.
* `Decimal.read?` reads a numeral with point and exponent as `± digits · 10 ^ exponent`.
* `Decimal.isNonnegativeDouble` tells whether the denoted number, rounded to the nearest
  number of the binary64 format with ties to even, is finite and not below zero. It is
  decided on the exact number, and huge exponents are settled by counting digits.
-/

set_option autoImplicit false

namespace FlowGraph

/-- The number that decimal digits denote. -/
def digitsValue (ds : List Char) : Nat :=
  ds.foldl (fun n d => n * 10 + (d.toNat - '0'.toNat)) 0

/-- A number of 32 bits: digits, at least one, behind at most one plus sign. -/
def readUInt32? (cs : List Char) : Option UInt32 :=
  let digits := match cs with
    | '+' :: ds => ds
    | ds => ds
  if digits.isEmpty || !digits.all Char.isDigit then none
  else if digitsValue digits < UInt32.size then some (UInt32.ofNat (digitsValue digits))
  else none

/-- The number `± digits · 10 ^ exponent`. -/
structure Decimal where
  negative : Bool
  digits : Nat
  exponent : Int
deriving DecidableEq

namespace Decimal

/-- Whether a sign at the front says minus, and what follows it. -/
def readSign : List Char → Bool × List Char
  | '-' :: cs => (true, cs)
  | '+' :: cs => (false, cs)
  | cs => (false, cs)

/-- The exponent at the end of a numeral; none at all is zero. -/
def readExponent? : List Char → Option Int
  | [] => some 0
  | c :: cs =>
      if c = 'e' || c = 'E' then
        let (negative, ds) := readSign cs
        if ds.isEmpty || !ds.all Char.isDigit then none
        else if negative then some (-(digitsValue ds : Int))
        else some (digitsValue ds : Int)
      else none

/-- The numeral that makes up the whole text: an optional sign, digits around an optional
point with at least one of them, and an optional exponent. -/
def read? (cs : List Char) : Option Decimal :=
  let (negative, cs) := readSign cs
  let whole := cs.takeWhile Char.isDigit
  let (fraction, rest) := match cs.dropWhile Char.isDigit with
    | '.' :: r => (r.takeWhile Char.isDigit, r.dropWhile Char.isDigit)
    | r => ([], r)
  if whole.isEmpty && fraction.isEmpty then none
  else
    (readExponent? rest).map (fun e =>
      ⟨negative, digitsValue (whole ++ fraction), e - fraction.length⟩)

/-- The number of decimal digits, one for zero. -/
def digitCount (n : Nat) : Nat := if n < 10 then 1 else digitCount (n / 10) + 1

/-- Half a step above the greatest finite number of the format: from here on a number rounds
to infinity. -/
def overflowBound : Nat := Nat.pow 2 1024 - Nat.pow 2 970

/-- Whether `digits · 10 ^ exponent` is below `overflowBound`, a number of 309 digits. -/
def isBelowOverflow (digits : Nat) (exponent : Int) : Bool :=
  let places := (digitCount digits : Int) + exponent
  digits == 0 || decide (places ≤ 308) || (decide (places ≤ 309) &&
    decide (digits * Nat.pow 10 exponent.toNat < overflowBound * Nat.pow 10 (-exponent).toNat))

/-- Whether `digits · 10 ^ exponent` is at most `2 ^ (-1075)`, half the least positive number
of the format, which has 323 zeros after its point. -/
def isNegligible (digits : Nat) (exponent : Int) : Bool :=
  let places := (digitCount digits : Int) + exponent
  digits == 0 || decide (places ≤ -324) || (decide (places ≤ -323) &&
    decide (digits * Nat.pow 10 exponent.toNat * Nat.pow 2 1075 ≤ Nat.pow 10 (-exponent).toNat))

/-- Whether the number rounds to a finite number of the format that is not below zero. A
negative number does when it rounds to zero. -/
def isNonnegativeDouble (d : Decimal) : Bool :=
  if d.negative then isNegligible d.digits d.exponent
  else isBelowOverflow d.digits d.exponent

end Decimal

end FlowGraph
