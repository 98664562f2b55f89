import FlowGraph.Decimal.Shortest

/-!
# `FlowGraph.Json.Numeral`: JSON numbers

A `Numeral` is a number as it is written. Its value is a whole number where it is written as
one and fits 64 bits, and a binary64 number otherwise; a number beyond the range of that
format has no value. Floating-point values are built from the leading digits, as many as fit
64 bits, and one power of ten, so the last bit may differ from the nearest number.

`floatText` shows such a value with the fewest digits that read back: positionally where the
leading digit stands between `10 ^ -5` and `10 ^ 15`, and with an exponent otherwise.
-/

set_option autoImplicit false

namespace FlowGraph.Json

/-- A number as it is written. -/
structure Numeral where
  negative : Bool
  /-- The digits before the point. -/
  whole : List Char
  /-- The digits after the point; none if there is no point. -/
  fraction : List Char
  /-- The sign and the digits of the exponent. -/
  exponent : Option (Bool × List Char)
deriving DecidableEq

/-- The value of a number. -/
inductive NumberValue where
  /-- A whole number not below zero that fits 64 bits. -/
  | natural (n : Nat)
  /-- A whole number below zero that fits 64 bits with its sign; `n` is its amount. -/
  | negative (n : Nat)
  /-- Any other number of the format. -/
  | float (x : Float)

namespace Numeral

/-- The value of `leading` followed by digits as long as it stays below `2 ^ 64`, and the
digits that are left. -/
def significand (leading : Nat) : List Char → Nat × List Char
  | [] => (leading, [])
  | d :: ds =>
      let n := leading * 10 + (d.toNat - '0'.toNat)
      if n < UInt64.size then significand n ds else (leading, d :: ds)

/-- The greatest power of ten that is divided by at once. -/
def greatestPower : Nat := 308

/-- `10 ^ k` in floating point. -/
def powerOfTen (k : Nat) : Float := Float.ofScientific 1 false k

/-- `x` divided by `10 ^ k` in steps of at most `10 ^ 308`. A number below `2 ^ 64` is zero
after three full steps, so more of them change nothing. -/
def divideByPower (x : Float) (k : Nat) : Float :=
  let steps := (k - 1) / greatestPower
  let y := Nat.repeat (fun y => y / powerOfTen greatestPower) (min steps 3) x
  y / powerOfTen (k - greatestPower * steps)

/-- `n · 10 ^ k` in floating point, unless it is beyond the range. -/
def scaled? (n : Nat) (k : Int) : Option Float :=
  let x := (UInt64.ofNat n).toFloat
  if k < 0 then some (divideByPower x (-k).toNat)
  else if k ≤ greatestPower then
    let y := x * powerOfTen k.toNat
    if y.isInf then none else some y
  else if n = 0 then some x else none

/-- The greatest exponent that is taken at its word. -/
def greatestExponent : Nat := Nat.pow 2 31 - 1

/-- The value in floating point, unless it is beyond the range. -/
def float? (n : Numeral) : Option Float := do
  let (wholePart, extra) := significand 0 n.whole
  let (sig, dropped) := significand wholePart n.fraction
  let k : Int := (extra.length : Int) - ((n.fraction.length : Int) - dropped.length)
  let x ← match n.exponent with
    | none => scaled? sig k
    | some (below, ds) =>
        let e := digitsValue ds
        if greatestExponent < e then
          if sig ≠ 0 ∧ !below then none else some 0
        else scaled? sig (if below then k - e else k + e)
  return if n.negative then -x else x

/-- The value of a number, unless it is beyond the range. -/
def value? (n : Numeral) : Option NumberValue :=
  let amount := digitsValue n.whole
  if n.fraction = [] ∧ n.exponent = none then
    if !n.negative && amount < UInt64.size then some (.natural amount)
    else if n.negative && 0 < amount && amount ≤ Nat.pow 2 63 then some (.negative amount)
    else (n.float?).map .float
  else (n.float?).map .float

end Numeral

/-- An exponent with its sign, which is never left out. -/
def exponentText (e : Int) : String := (if e < 0 then "-" else "+") ++ toString e.natAbs

/-- The text of `d · 10 ^ k`. -/
def decimalText (d : Nat) (k : Int) : String :=
  let ds := Nat.toDigits 10 d
  let leading : Int := k + (ds.length : Int) - 1
  let zeros (n : Int) : List Char := List.replicate n.toNat '0'
  if -5 ≤ leading ∧ leading ≤ 15 then
    String.ofList <|
      if 0 ≤ k then ds ++ zeros k ++ ['.', '0']
      else if 0 ≤ leading then
        ds.take (leading + 1).toNat ++ '.' :: ds.drop (leading + 1).toNat
      else ['0', '.'] ++ zeros (-leading - 1) ++ ds
  else
    String.ofList (match ds with
      | [] => []
      | [d] => [d]
      | d :: rest => d :: '.' :: rest) ++ "e" ++ exponentText leading

/-- The text of a finite number. -/
def floatText (x : Float) : String :=
  let bits := x.toBits.toNat
  let amount := bits % Nat.pow 2 63
  (if Nat.pow 2 63 ≤ bits then "-" else "") ++
    (if amount = 0 then "0.0"
    else
      let (d, k) := Decimal.shortest amount
      decimalText d k)

end FlowGraph.Json
