import Mathlib.Algebra.Order.Field.Power
import Mathlib.Data.List.TakeWhile
import Mathlib.Data.Rat.Cast.Order
import Mathlib.Tactic.FieldSimp
import Mathlib.Tactic.Ring
import FlowGraph.Decimal.Basic

/-!
# `FlowGraph.Proofs.Decimal.Numerals`: which texts are numerals, and what they denote

A numeral is an optional sign, decimal digits around an optional point with at least one of them,
and an optional exponent. `Decimal.Denotes` says so part by part and tells the number, the digits
before the point as a whole number, those behind it as a fraction, and the exponent as a power of
ten. `denotes_iff` says that `Decimal.read?` reads exactly these texts, as decimals of the same
value.
-/

set_option autoImplicit false

namespace FlowGraph.Decimal

/-! ### The parts of a numeral -/

/-- A sign, which may be missing, and whether it says minus. -/
inductive SignText : List Char → Bool → Prop
  | none : SignText [] false
  | plus : SignText ['+'] false
  | minus : SignText ['-'] true

/-- The digits behind a point. Both may be missing, and the point may stand without digits. -/
inductive FractionText : List Char → List Char → Prop
  | none : FractionText [] []
  | point {ds : List Char} (hds : ∀ d ∈ ds, d.isDigit = true) : FractionText ('.' :: ds) ds

/-- An exponent, which may be missing, and its value. -/
inductive ExponentText : List Char → Int → Prop
  | none : ExponentText [] 0
  | mark {c : Char} {sign ds : List Char} {negative : Bool} (hc : c = 'e' ∨ c = 'E')
      (hsign : SignText sign negative) (hds : ∀ d ∈ ds, d.isDigit = true) (hne : ds ≠ []) :
      ExponentText (c :: (sign ++ ds))
        (if negative then -(Nat.ofDigitChars 10 ds 0 : Int) else Nat.ofDigitChars 10 ds 0)

/-- The text is a numeral and denotes the number. -/
inductive Denotes : List Char → ℚ → Prop
  | intro {sign whole point fraction exponent : List Char} {negative : Bool} {e : Int}
      (hsign : SignText sign negative) (hwhole : ∀ d ∈ whole, d.isDigit = true)
      (hpoint : FractionText point fraction) (hsome : whole ≠ [] ∨ fraction ≠ [])
      (hexponent : ExponentText exponent e) :
      Denotes (sign ++ (whole ++ (point ++ exponent)))
        ((if negative then -1 else 1) *
          (Nat.ofDigitChars 10 whole 0 + Nat.ofDigitChars 10 fraction 0 / 10 ^ fraction.length) *
          10 ^ e)

/-- The number that a decimal stands for. -/
def value (d : Decimal) : ℚ := (if d.negative then -1 else 1) * d.digits * 10 ^ d.exponent

/-! ### Signs and exponents -/

/-- Every text is a sign, which may be missing, and what follows it. -/
theorem signText_readSign (cs : List Char) :
    ∃ sign, SignText sign (readSign cs).1 ∧ cs = sign ++ (readSign cs).2 := by
  unfold readSign
  split
  · exact ⟨['-'], .minus, rfl⟩
  · exact ⟨['+'], .plus, rfl⟩
  · exact ⟨[], .none, rfl⟩

/-- A sign is read in front of what does not begin with one. -/
theorem readSign_append {sign cs : List Char} {negative : Bool} (h : SignText sign negative)
    (hcs : ∀ c ∈ cs.head?, c ≠ '-' ∧ c ≠ '+') : readSign (sign ++ cs) = (negative, cs) := by
  cases h with
  | none =>
      cases cs with
      | nil => rfl
      | cons c cs =>
          obtain ⟨hminus, hplus⟩ := hcs c rfl
          simp [readSign, hminus, hplus]
  | plus => rfl
  | minus => rfl

/-- The value of digits is that of the library. -/
theorem digitsValue_eq (ds : List Char) : digitsValue ds = Nat.ofDigitChars 10 ds 0 := by
  rw [Nat.ofDigitChars_eq_foldl]
  simp only [digitsValue, Nat.mul_comm]

/-- A digit is no sign. -/
theorem ne_sign_of_isDigit {c : Char} (h : c.isDigit = true) : c ≠ '-' ∧ c ≠ '+' := by
  refine ⟨?_, ?_⟩ <;>
  · rintro rfl
    exact absurd h (by decide)

/-- Digits do not begin with a sign. -/
theorem ne_sign_of_mem_head? {ds : List Char} (hds : ∀ d ∈ ds, d.isDigit = true) :
    ∀ c ∈ ds.head?, c ≠ '-' ∧ c ≠ '+' := fun c hc =>
  ne_sign_of_isDigit (hds c (List.mem_of_mem_head? hc))

/-- The exponents that are read are the texts of one. -/
theorem readExponent?_eq_some_iff {cs : List Char} {e : Int} :
    readExponent? cs = some e ↔ ExponentText cs e := by
  constructor
  · intro h
    cases cs with
    | nil =>
        cases h
        exact .none
    | cons c cs =>
        rw [readExponent?] at h
        split at h
        · next hc =>
            -- The mark has been read. What is left is a sign and digits, as `readSign` cuts them.
            obtain ⟨sign, hsign, hcs⟩ := signText_readSign cs
            rcases hread : readSign cs with ⟨negative, ds⟩
            rw [hread] at hsign hcs h
            dsimp only at h hsign hcs
            split at h
            · cases h
            · next hdigits =>
                simp only [Bool.or_eq_true, not_or, Bool.not_eq_true, Bool.not_eq_false',
                  List.isEmpty_eq_false_iff, List.all_eq_true] at hdigits
                have he : (if negative then -(Nat.ofDigitChars 10 ds 0 : Int)
                    else Nat.ofDigitChars 10 ds 0) = e := by
                  rw [← digitsValue_eq]
                  split at h
                  · next hneg => rw [if_pos hneg]; exact Option.some.inj h
                  · next hneg => rw [if_neg hneg]; exact Option.some.inj h
                rw [← he, hcs]
                exact .mark (by simpa using hc) hsign hdigits.2 hdigits.1
        · cases h
  · intro h
    cases h with
    | none => rfl
    | @mark c sign ds negative hc hsign hds hne =>
        have hread := readSign_append hsign (ne_sign_of_mem_head? hds)
        have hall : ds.all Char.isDigit = true := List.all_eq_true.2 hds
        have hempty : ds.isEmpty = false := List.isEmpty_eq_false_iff.2 hne
        rw [readExponent?, if_pos (by simpa using hc), hread]
        simp only [hall, hempty, Bool.not_true, Bool.or_false, Bool.false_eq_true, if_false,
          digitsValue_eq]
        split
        · rfl
        · rfl

/-! ### Points -/

/-- The digits behind a point at the front, and what follows them. -/
def readPoint (cs : List Char) : List Char × List Char :=
  match cs with
  | '.' :: r => (r.takeWhile Char.isDigit, r.dropWhile Char.isDigit)
  | r => ([], r)

/-- Every text is a point with its digits, which may be missing, and what follows them. -/
theorem fractionText_readPoint (cs : List Char) :
    ∃ point, FractionText point (readPoint cs).1 ∧ cs = point ++ (readPoint cs).2 := by
  unfold readPoint
  split
  · next r =>
      refine ⟨'.' :: r.takeWhile Char.isDigit, .point (fun d hd => List.mem_takeWhile_imp hd), ?_⟩
      rw [List.cons_append, List.takeWhile_append_dropWhile]
  · exact ⟨[], .none, rfl⟩

/-- What begins neither with a digit nor with a point is not taken for more of a number. -/
def EndsDigits (cs : List Char) : Prop := ∀ c ∈ cs.head?, c.isDigit = false ∧ c ≠ '.'

/-- The digits end before an exponent. -/
theorem ExponentText.endsDigits {cs : List Char} {e : Int} (h : ExponentText cs e) :
    EndsDigits cs := by
  cases h with
  | none => exact nofun
  | mark hc hsign hds hne =>
      intro c hmem
      cases hmem
      rcases hc with rfl | rfl
      · decide
      · decide

/-- Digits are taken whole in front of what does not begin with one. -/
theorem span_digits {ds cs : List Char} (hds : ∀ d ∈ ds, d.isDigit = true)
    (hcs : ∀ c ∈ cs.head?, c.isDigit = false) :
    (ds ++ cs).takeWhile Char.isDigit = ds ∧ (ds ++ cs).dropWhile Char.isDigit = cs := by
  rw [List.takeWhile_append_of_pos hds, List.dropWhile_append_of_pos hds]
  cases cs with
  | nil => simp
  | cons c cs => simp [hcs c rfl]

/-- A fraction is read as far as its digits go. -/
theorem readPoint_append {point fraction cs : List Char} (h : FractionText point fraction)
    (hcs : EndsDigits cs) : readPoint (point ++ cs) = (fraction, cs) := by
  cases h with
  | none =>
      cases cs with
      | nil => rfl
      | cons c cs => simp [readPoint, (hcs c rfl).2]
  | point hds =>
      obtain ⟨htake, hdrop⟩ := span_digits hds (fun c hc => (hcs c hc).1)
      rw [List.cons_append, readPoint, htake, hdrop]

/-- What follows the digits before a point does not begin with a digit. -/
theorem isDigit_head?_point {point fraction cs : List Char} (h : FractionText point fraction)
    (hcs : EndsDigits cs) : ∀ c ∈ (point ++ cs).head?, c.isDigit = false := by
  cases h with
  | none => exact fun c hc => (hcs c hc).1
  | point hds =>
      intro c hc
      cases hc
      decide

/-! ### Numerals -/

/-- Reading a decimal, part by part: sign, whole digits, fraction, exponent. -/
theorem read?_eq (cs : List Char) :
    read? cs =
      let (negative, cs) := readSign cs
      let (fraction, rest) := readPoint (cs.dropWhile Char.isDigit)
      if (cs.takeWhile Char.isDigit).isEmpty && fraction.isEmpty then none
      else (readExponent? rest).map (fun e =>
        ⟨negative, digitsValue (cs.takeWhile Char.isDigit ++ fraction), e - fraction.length⟩) :=
  rfl

/-- The value of digits around a point is that of the digits before it and, as a fraction, of those
behind it. -/
theorem value_digits (negative : Bool) (whole fraction : List Char) (e : Int) :
    value ⟨negative, digitsValue (whole ++ fraction), e - fraction.length⟩
      = (if negative then -1 else 1) *
          (Nat.ofDigitChars 10 whole 0 + Nat.ofDigitChars 10 fraction 0 / 10 ^ fraction.length) *
          10 ^ e := by
  have hdigits : (digitsValue (whole ++ fraction) : ℚ)
      = 10 ^ fraction.length * Nat.ofDigitChars 10 whole 0 + Nat.ofDigitChars 10 fraction 0 := by
    rw [digitsValue_eq, Nat.ofDigitChars_append, Nat.ofDigitChars_eq_ofDigitChars_zero]
    push_cast
    ring
  have hpow : (10 : ℚ) ^ (e - fraction.length) = 10 ^ e / 10 ^ fraction.length := by
    rw [zpow_sub₀ (by norm_num), zpow_natCast]
  rw [value, hdigits, hpow]
  field_simp

/-- What follows the sign of a numeral does not begin with another. -/
theorem ne_sign_of_some {whole point fraction cs : List Char}
    (hwhole : ∀ d ∈ whole, d.isDigit = true) (hpoint : FractionText point fraction)
    (hsome : whole ≠ [] ∨ fraction ≠ []) :
    ∀ c ∈ (whole ++ (point ++ cs)).head?, c ≠ '-' ∧ c ≠ '+' := by
  intro c hc
  cases whole with
  | cons d ds =>
      cases hc
      exact ne_sign_of_isDigit (hwhole c (by simp))
  | nil =>
      cases hpoint with
      | none => simp at hsome
      | point hds =>
          cases hc
          decide

/-- The parts of a decimal are read as they are put together. -/
theorem read?_of_parts {sign whole point fraction exponent : List Char} {negative : Bool} {e : Int}
    (hsign : SignText sign negative) (hwhole : ∀ d ∈ whole, d.isDigit = true)
    (hpoint : FractionText point fraction) (hsome : whole ≠ [] ∨ fraction ≠ [])
    (hexponent : ExponentText exponent e) :
    read? (sign ++ (whole ++ (point ++ exponent)))
      = some ⟨negative, digitsValue (whole ++ fraction), e - fraction.length⟩ := by
  obtain ⟨htake, hdrop⟩ := span_digits hwhole (isDigit_head?_point hpoint hexponent.endsDigits)
  have hempty : (whole.isEmpty && fraction.isEmpty) = false := by
    rcases hsome with h | h
    · simp [h]
    · simp [h]
  rw [read?_eq, readSign_append hsign (ne_sign_of_some hwhole hpoint hsome)]
  simp only [htake, hdrop, readPoint_append hpoint hexponent.endsDigits, hempty,
    Bool.false_eq_true, if_false, readExponent?_eq_some_iff.2 hexponent, Option.map_some]

/-- What is read has the parts of a numeral. -/
theorem exists_parts {cs : List Char} {d : Decimal} (h : read? cs = some d) :
    ∃ (sign whole point fraction exponent : List Char) (negative : Bool) (e : Int),
      SignText sign negative ∧ (∀ d ∈ whole, d.isDigit = true) ∧ FractionText point fraction ∧
      (whole ≠ [] ∨ fraction ≠ []) ∧ ExponentText exponent e ∧
      cs = sign ++ (whole ++ (point ++ exponent)) ∧
      d = ⟨negative, digitsValue (whole ++ fraction), e - fraction.length⟩ := by
  rw [read?_eq] at h
  -- The parts are taken off one after another, each as its reader cuts it.
  obtain ⟨sign, hsign, hcs⟩ := signText_readSign cs
  rcases hread : readSign cs with ⟨negative, rest⟩
  rw [hread] at hsign hcs h
  obtain ⟨point, hpoint, hrest⟩ := fractionText_readPoint (rest.dropWhile Char.isDigit)
  rcases hfraction : readPoint (rest.dropWhile Char.isDigit) with ⟨fraction, exponent⟩
  rw [hfraction] at hpoint hrest
  dsimp only at h hsign hcs hpoint hrest
  rw [hfraction] at h
  dsimp only at h
  split at h
  · cases h
  · next hsome =>
      obtain ⟨e, he, rfl⟩ := Option.map_eq_some_iff.1 h
      refine ⟨sign, rest.takeWhile Char.isDigit, point, fraction, exponent, negative, e, hsign,
        fun c hc => List.mem_takeWhile_imp hc, hpoint, ?_, readExponent?_eq_some_iff.1 he, ?_, rfl⟩
      · rw [Bool.and_eq_true, not_and_or] at hsome
        exact hsome.imp (fun hne hnil => hne (by simp [hnil]))
          (fun hne hnil => hne (by simp [hnil]))
      · rw [← hrest, List.takeWhile_append_dropWhile]
        exact hcs

/-- Exactly the numerals are read, each as a decimal of the value that it denotes. -/
theorem denotes_iff {cs : List Char} {q : ℚ} :
    Denotes cs q ↔ ∃ d, read? cs = some d ∧ d.value = q := by
  constructor
  · rintro ⟨hsign, hwhole, hpoint, hsome, hexponent⟩
    exact ⟨_, read?_of_parts hsign hwhole hpoint hsome hexponent, value_digits ..⟩
  · rintro ⟨d, hread, rfl⟩
    obtain ⟨sign, whole, point, fraction, exponent, negative, e, hsign, hwhole, hpoint, hsome,
      hexponent, rfl, rfl⟩ := exists_parts hread
    rw [value_digits]
    exact .intro hsign hwhole hpoint hsome hexponent

/-- A numeral denotes one number. -/
theorem Denotes.unique {cs : List Char} {q r : ℚ} (hq : Denotes cs q) (hr : Denotes cs r) :
    q = r := by
  obtain ⟨d, hread, rfl⟩ := denotes_iff.1 hq
  obtain ⟨d', hread', rfl⟩ := denotes_iff.1 hr
  rw [Option.some.inj (hread.symm.trans hread')]

/-! ### Names -/

/-- The text is a name for an infinity or for no number, with a sign or without, its letters large
or small. -/
def IsName (cs : List Char) : Prop :=
  ∃ (sign word : List Char) (negative : Bool), SignText sign negative ∧ cs = sign ++ word ∧
    word.map Char.toLower ∈ ["inf".toList, "infinity".toList, "nan".toList]

/-- No digit is the letter that all names of infinities and of no number have. -/
theorem toLower_ne_of_isDigit {c : Char} (h : c.isDigit = true) : c.toLower ≠ 'n' := by
  rw [Char.isDigit, Bool.and_eq_true, decide_eq_true_iff, decide_eq_true_iff] at h
  -- The digits come before the large letters, and so a digit is its own small letter.
  have hlower : c.toLower = c := dif_neg (fun hupper =>
    absurd (UInt32.le_trans hupper.1 h.2) (by decide))
  rw [hlower]
  rintro rfl
  exact absurd h (by decide)

/-- A numeral is written without the letter that all names have. -/
theorem Denotes.toLower_ne {cs : List Char} {q : ℚ} (h : Denotes cs q) :
    ∀ c ∈ cs, c.toLower ≠ 'n' := by
  have hdigits {ds : List Char} (hds : ∀ d ∈ ds, d.isDigit = true) : ∀ c ∈ ds, c.toLower ≠ 'n' :=
    fun c hc => toLower_ne_of_isDigit (hds c hc)
  have hsigns {sign : List Char} {negative : Bool} (hsign : SignText sign negative) :
      ∀ c ∈ sign, c.toLower ≠ 'n' := by
    cases hsign with
    | none => exact nofun
    | plus => exact List.forall_mem_singleton.2 (by decide)
    | minus => exact List.forall_mem_singleton.2 (by decide)
  -- Part by part: besides signs and digits there are the point and the mark of the exponent.
  obtain ⟨hsign, hwhole, hpoint, -, hexponent⟩ := h
  intro c hc
  simp only [List.mem_append] at hc
  rcases hc with hc | hc | hc | hc
  · exact hsigns hsign c hc
  · exact hdigits hwhole c hc
  · cases hpoint with
    | none => cases hc
    | point hds =>
        rcases List.mem_cons.1 hc with rfl | hc
        · decide
        · exact hdigits hds c hc
  · cases hexponent with
    | none => cases hc
    | mark hmark hsign hds hne =>
        rcases List.mem_cons.1 hc with rfl | hc
        · rcases hmark with rfl | rfl
          · decide
          · decide
        · rcases List.mem_append.1 hc with hc | hc
          · exact hsigns hsign c hc
          · exact hdigits hds c hc

/-- No name is a numeral. -/
theorem IsName.not_denotes {cs : List Char} {q : ℚ} (h : IsName cs) : ¬ Denotes cs q := by
  obtain ⟨sign, word, negative, -, rfl, hword⟩ := h
  intro hq
  have hn : 'n' ∈ word.map Char.toLower := by
    simp only [List.mem_cons, List.not_mem_nil, or_false] at hword
    rcases hword with heq | heq | heq
    · rw [heq]; decide
    · rw [heq]; decide
    · rw [heq]; decide
  obtain ⟨c, hc, hlower⟩ := List.mem_map.1 hn
  exact hq.toLower_ne c (List.mem_append_right _ hc) hlower

end FlowGraph.Decimal
