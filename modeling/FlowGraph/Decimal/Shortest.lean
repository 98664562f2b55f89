import FlowGraph.Decimal.Basic

/-!
# `FlowGraph.Decimal.Shortest`: the fewest digits that read back

A positive binary64 number is `m · 2 ^ q` with whole `m`. All decimals between the middles to
its two neighbours read back as it, the middles themselves exactly when `m` is even.
`shortest` looks for the decimal with the fewest digits among them. On the grid of decimals
with `n` digits only the two that enclose the number can be the nearest, so these are tried,
for `n` from one on; of two that both read back the nearer wins, and of two equally near the
even one. Everything is exact arithmetic on whole numbers.
-/

set_option autoImplicit false

namespace FlowGraph.Decimal

/-- The positive number `m · 2 ^ q` with the decimals that read back as it, in quarters of
`2 ^ q`: from `low` to `high` around `4 · m`, the ends included or not. -/
structure Interval where
  m : Nat
  q : Int
  low : Nat
  high : Nat
  closed : Bool

/-- The interval of a finite number other than zero, given by its bits without the sign. -/
def Interval.ofBits (bits : Nat) : Interval :=
  let e : Nat := bits / Nat.pow 2 52
  let f : Nat := bits % Nat.pow 2 52
  let m : Nat := if e = 0 then f else f + Nat.pow 2 52
  let q : Int := if e = 0 then -1074 else (e : Int) - 1075
  -- The neighbour below a power of two is only half as far away.
  let low := if f = 0 ∧ 1 < e then 4 * m - 1 else 4 * m - 2
  ⟨m, q, low, 4 * m + 2, decide (m % 2 = 0)⟩

/-- The sign of `a · 2 ^ p - b · 10 ^ k`. -/
def compareScaled (a : Nat) (p : Int) (b : Nat) (k : Int) : Ordering :=
  compare (a * Nat.pow 2 p.toNat * Nat.pow 10 (-k).toNat)
    (b * Nat.pow 10 k.toNat * Nat.pow 2 (-p).toNat)

namespace Interval

/-- Whether `d · 10 ^ k` reads back as the number. -/
def contains (i : Interval) (d : Nat) (k : Int) : Bool :=
  let below := compareScaled i.low (i.q - 2) d k
  let above := compareScaled i.high (i.q - 2) d k
  (below == .lt || (i.closed && below == .eq)) && (above == .gt || (i.closed && above == .eq))

/-- The greatest `d` for which `d · 10 ^ k` does not exceed the number. -/
def floor (i : Interval) (k : Int) : Nat :=
  i.m * Nat.pow 2 i.q.toNat * Nat.pow 10 (-k).toNat /
    (Nat.pow 10 k.toNat * Nat.pow 2 (-i.q).toNat)

/-- The better of the two decimals of the grid `10 ^ k` that enclose the number, if one of
them reads back. -/
def onGrid? (i : Interval) (k : Int) : Option Nat :=
  let d := i.floor k
  match i.contains d k, i.contains (d + 1) k with
  | false, false => none
  | true, false => some d
  | false, true => some (d + 1)
  | true, true =>
      -- The number lies below, on or above the middle of the two.
      match compareScaled (2 * i.m) i.q (2 * d + 1) k with
      | .lt => some d
      | .gt => some (d + 1)
      | .eq => some (if d % 2 = 0 then d else d + 1)

/-- The exponent of the leading digit of the number. -/
def leadingExponent (i : Interval) : Int :=
  -- The first guess, from the binary exponent, is at most one too small.
  let guess := ((Nat.log2 i.m : Int) + i.q) * 30103 / 100000
  if compareScaled i.m i.q 1 (guess + 1) == .lt then guess else guess + 1

/-- The decimal with the fewest digits that reads back, trying `n` digits and more. -/
def search (i : Interval) (leading : Int) : Nat → Nat → Nat × Int
  | 0, n => (i.floor (leading - n), leading - n)
  | fuel + 1, n =>
      match i.onGrid? (leading - n + 1) with
      | some d => (d, leading - n + 1)
      | none => search i leading fuel (n + 1)

end Interval

/-- `d · 10 ^ k` without zeros at the end of `d`, of which there are at most `fuel`. -/
def dropZeros : Nat → Nat → Int → Nat × Int
  | 0, d, k => (d, k)
  | fuel + 1, d, k => if d % 10 = 0 ∧ d ≠ 0 then dropZeros fuel (d / 10) (k + 1) else (d, k)

/-- The digits and the exponent of the shortest decimal that reads back as the number of the
given bits. Seventeen digits always do. -/
def shortest (bits : Nat) : Nat × Int :=
  let i := Interval.ofBits bits
  let (d, k) := i.search i.leadingExponent 17 1
  dropZeros 20 d k

end FlowGraph.Decimal
