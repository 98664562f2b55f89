import FlowGraph.Json.Tree
import FlowGraph.Json.Writer

/-!
# `FlowGraph.Proofs.Json.Atoms`: written strings and numbers read back

`quote` writes a string and `readString?` reads its code points, which `joinPairs?` makes
characters again. `toString` writes a number and `readNumeral?` reads its digits. The
statements:

* `readString?_quote`: what stands behind the opening mark of a quoted string reads as its
  characters, whatever they are, and leaves what follows the closing mark.
* `joinPairs?_map_toNat`: code points of characters are never halves of a pair, so they
  become the characters they came from.
* `readNumeral?_toDigits`: the digits of a number read as that number, if what follows does
  not go on with it (`EndsNumber`).
-/

set_option autoImplicit false

namespace FlowGraph.Json

/-! ### Strings -/

/-- A hexadecimal digit is read with the value that it is written for. -/
theorem hexValue?_hexDigit {n : Nat} (h : n < 16) : hexValue? (hexDigit n) = some n := by
  revert n
  decide

/-- A code point below the first blank spells itself with two hexadecimal digits. -/
theorem hexValue4?_hexDigit {n : Nat} (h : n < 0x20) :
    hexValue4? '0' '0' (hexDigit (n / 16)) (hexDigit (n % 16)) = some n := by
  have hzero : hexValue? '0' = some 0 := by decide
  have hhigh := hexValue?_hexDigit (show n / 16 < 16 by omega)
  have hlow := hexValue?_hexDigit (show n % 16 < 16 by omega)
  simp only [hexValue4?, hzero, hhigh, hlow, Option.bind_eq_bind, Option.bind_some,
    Option.pure_def, Option.some.injEq]
  omega

/-- A named escape reads as the character that it names. -/
theorem readString?_named {e c : Char} (h : unescape? e = some c) (r : List Char) :
    readString? ('\\' :: e :: r) = (readString? r).map (fun p => (c.toNat :: p.1, p.2)) := by
  -- A named escape is not the spelling of a code point, which has a case of its own.
  have hu : e ≠ 'u' := by
    rintro rfl
    simp [unescape?] at h
  rw [readString?]
  · cases hr : readString? r <;> simp [h]
  · exact fun _ _ _ _ _ he => absurd he hu

/-- The written form of one character reads as its code point. -/
theorem readString?_escape (c : Char) (r : List Char) :
    readString? (escape c ++ r) = (readString? r).map (fun p => (c.toNat :: p.1, p.2)) := by
  unfold escape
  split
  · next h => subst h; exact readString?_named (by decide) r
  split
  · next h => subst h; exact readString?_named (by decide) r
  split
  · next h => subst h; exact readString?_named (by decide) r
  split
  · next h => subst h; exact readString?_named (by decide) r
  split
  · next h => subst h; exact readString?_named (by decide) r
  split
  · next h =>
      obtain rfl : c = '\x08' := Char.ext h
      exact readString?_named (by decide) r
  split
  · next h =>
      obtain rfl : c = '\x0C' := Char.ext h
      exact readString?_named (by decide) r
  split
  · next h =>
      -- Only here does a character become six, and the four digits are its code point.
      have hlt : c.toNat < 0x20 := UInt32.lt_iff_toNat_lt.1 h
      cases hr : readString? r <;>
        simp [readString?, hexValue4?_hexDigit hlt, hr]
  · next hq hb _ _ _ _ _ hlt =>
      rw [List.singleton_append, readString?]
      · cases hr : readString? r <;> simp [hlt]
      · exact fun hc => hq hc
      · exact fun _ _ _ _ _ hc => absurd hc hb
      · exact fun _ _ hc => absurd hc hb

/-- The text behind the opening mark of a quoted string reads as the code points of its
characters, and what follows the closing mark is left. -/
theorem readString?_quote (cs r : List Char) :
    readString? (cs.flatMap escape ++ '"' :: r) = some (cs.map Char.toNat, r) := by
  induction cs with
  | nil => rfl
  | cons c cs ih =>
      rw [List.flatMap_cons, List.append_assoc, readString?_escape, ih]
      rfl

/-- No character is half of a surrogate pair, so code points of characters are joined with
nothing. -/
theorem joinPairs?_map_toNat (cs : List Char) : joinPairs? (cs.map Char.toNat) = some cs := by
  induction cs with
  | nil => rfl
  | cons c cs ih =>
      -- The gap in the range of characters is exactly the range of halves.
      have hvalid : c.toNat < 0xD800 ∨ 0xDFFF < c.toNat := by
        rcases c.valid with h | ⟨h, -⟩
        · exact Or.inl h
        · exact Or.inr h
      rw [List.map_cons, joinPairs?.eq_def]
      simp only
      rw [if_neg (by omega), if_neg (by omega), ih]
      simp

/-! ### Numbers -/

/-- The text does not go on with a number that ends before it. -/
def EndsNumber (r : List Char) : Prop :=
  ∀ c ∈ r.head?, c.isDigit = false ∧ c ≠ '.' ∧ c ≠ 'e' ∧ c ≠ 'E'

/-- A number ends where the text ends. -/
theorem endsNumber_nil : EndsNumber [] := by simp [EndsNumber]

/-- A number ends before a character that cannot belong to one. -/
theorem endsNumber_cons {c : Char} (h : c.isDigit = false ∧ c ≠ '.' ∧ c ≠ 'e' ∧ c ≠ 'E')
    (r : List Char) : EndsNumber (c :: r) := by simpa [EndsNumber] using h

/-- The digits of a number have its value. -/
theorem digitsValue_toDigits (n : Nat) : digitsValue (Nat.toDigits 10 n) = n := by
  have h := Nat.ofDigitChars_ten_toDigits (n := n)
  -- The library folds with the factors the other way round.
  rw [Nat.ofDigitChars_eq_foldl] at h
  simpa only [digitsValue, Nat.mul_comm] using h

/-- A number is written with decimal digits only. -/
theorem isDigit_toDigits (n : Nat) : ∀ c ∈ Nat.toDigits 10 n, c.isDigit = true := fun _ hc =>
  Nat.isDigit_of_mem_toDigits (by decide) (by decide) hc

/-- Only zero is written with a zero at the front. -/
theorem head?_toDigits_ne {n : Nat} (h : 0 < n) : (Nat.toDigits 10 n).head? ≠ some '0' := by
  induction n using Nat.strongRecOn with
  | ind n ih =>
      by_cases hlt : n < 10
      · rw [Nat.toDigits_of_lt_base hlt]
        -- A number below ten is its own digit; above, the first digit is that of the quotient.
        have hsmall : ∀ m < 10, 0 < m → [Nat.digitChar m].head? ≠ some '0' := by decide
        exact hsmall n hlt h
      · have hge : 10 ≤ n := Nat.le_of_not_lt hlt
        rw [Nat.toDigits_of_base_le (by decide) hge, List.head?_append,
          Option.or_of_isSome (by simp)]
        exact ih (n / 10) (Nat.div_lt_self h (by decide)) (Nat.div_pos hge (by decide))

/-- Digits in front of what is no digit are taken whole. -/
theorem digits_append {ds r : List Char} (hds : ∀ c ∈ ds, c.isDigit = true)
    (hr : ∀ c ∈ r.head?, c.isDigit = false) : digits (ds ++ r) = (ds, r) := by
  have htake : r.takeWhile Char.isDigit = [] := by
    cases r with
    | nil => rfl
    | cons c r => simp [hr c rfl]
  have hdrop : r.dropWhile Char.isDigit = r := by
    cases r with
    | nil => rfl
    | cons c r => simp [hr c rfl]
  rw [digits, List.takeWhile_append_of_pos hds, List.dropWhile_append_of_pos hds, htake, hdrop,
    List.append_nil]

/-- No fraction is read where a number ends. -/
theorem readFraction?_of_endsNumber {r : List Char} (h : EndsNumber r) :
    readFraction? r = some ([], r) := by
  cases r with
  | nil => rfl
  | cons c r =>
      rw [readFraction?]
      exact fun _ hc => (h c rfl).2.1 (List.cons.inj hc).1

/-- No exponent is read where a number ends. -/
theorem readExponent?_of_endsNumber {r : List Char} (h : EndsNumber r) :
    readExponent? r = some (none, r) := by
  cases r with
  | nil => rfl
  | cons c r =>
      obtain ⟨-, -, he, hE⟩ := h c rfl
      simp [readExponent?, he, hE]

/-- The numeral that a whole number not below zero is written as. -/
def Numeral.ofNat (n : Nat) : Numeral := ⟨false, Nat.toDigits 10 n, [], none⟩

/-- The digits of a number read as its numeral, if the text does not go on with them. -/
theorem readNumeral?_toDigits (n : Nat) {r : List Char} (h : EndsNumber r) :
    readNumeral? false (Nat.toDigits 10 n ++ r) = some (Numeral.ofNat n, r) := by
  have hdigits := digits_append (isDigit_toDigits n) (fun c hc => (h c hc).1)
  -- The reader refuses a zero in front of other digits, and none is written.
  have hzero : (Nat.toDigits 10 n).head? = some '0' → Nat.toDigits 10 n = ['0'] := by
    intro hhead
    rcases Nat.eq_zero_or_pos n with rfl | hpos
    · rfl
    · exact absurd hhead (head?_toDigits_ne hpos)
  have hfront : ((Nat.toDigits 10 n).isEmpty || ((Nat.toDigits 10 n).head? == some '0' &&
      Nat.toDigits 10 n != ['0'])) = false := by
    have hne : (Nat.toDigits 10 n).isEmpty = false := by simp
    by_cases hhead : (Nat.toDigits 10 n).head? = some '0'
    · simp [hzero hhead]
    · simp [hne, hhead]
  simp [readNumeral?, hdigits, hfront, readFraction?_of_endsNumber h,
    readExponent?_of_endsNumber h, Numeral.ofNat]

/-- A numeral written for a number of 64 bits has that number as its value. -/
theorem value?_ofNat {n : Nat} (h : n < UInt64.size) :
    (Numeral.ofNat n).value? = some (.natural n) := by
  simp [Numeral.value?, Numeral.ofNat, digitsValue_toDigits, h]

end FlowGraph.Json
