import FlowGraph.Proofs.Compile.Reading
import FlowGraph.Proofs.Decimal.Numerals
import FlowGraph.Proofs.Text.Trimming

/-!
# `FlowGraph.Proofs.Compile.Fields`: which fields elements declare

A field has a name and a type, and its decimal places, if given, are a number of 32 bits. What is
written there is told apart from its reader: `IsCardinal` says which texts are numbers and which
number each denotes, without bound, and the bound is asked for afterwards.

* `readUInt32?_eq_some_iff`: the numbers that are read are exactly those that fit, at any length of
  the text.
* `Field.ofElement_reads`: an element reads as the field that it declares, or else is refused for
  what it misses first.
-/

set_option autoImplicit false

namespace FlowGraph

/-! ### Numbers -/

/-- The text is a number, written in digits, with or without a plus sign at the front. Zeros may
come before the other digits. -/
inductive IsCardinal : List Char → Nat → Prop
  | bare {ds : List Char} (hds : ∀ d ∈ ds, d.isDigit = true) (hne : ds ≠ []) :
      IsCardinal ds (Nat.ofDigitChars 10 ds 0)
  | plus {ds : List Char} (hds : ∀ d ∈ ds, d.isDigit = true) (hne : ds ≠ []) :
      IsCardinal ('+' :: ds) (Nat.ofDigitChars 10 ds 0)

/-- A text without the plus sign at its front, if it has one. -/
def withoutPlus : List Char → List Char
  | '+' :: ds => ds
  | ds => ds

/-- Digits have no sign to drop. -/
theorem withoutPlus_of_isDigit {ds : List Char} (hds : ∀ d ∈ ds, d.isDigit = true) :
    withoutPlus ds = ds := by
  cases ds with
  | nil => rfl
  | cons d ds => simp [withoutPlus, (Decimal.ne_sign_of_isDigit (hds d (by simp))).2]

/-- A sign is dropped, or there is none. -/
theorem eq_or_plus_withoutPlus (cs : List Char) :
    withoutPlus cs = cs ∨ cs = '+' :: withoutPlus cs := by
  unfold withoutPlus
  split
  · exact Or.inr rfl
  · exact Or.inl rfl

/-- Only one plus sign is passed over. -/
theorem isCardinal_iff {cs : List Char} {n : Nat} :
    IsCardinal cs n ↔ withoutPlus cs ≠ [] ∧ (∀ d ∈ withoutPlus cs, d.isDigit = true) ∧
      Nat.ofDigitChars 10 (withoutPlus cs) 0 = n := by
  constructor
  · rintro (⟨hds, hne⟩ | ⟨hds, hne⟩)
    · rw [withoutPlus_of_isDigit hds]
      exact ⟨hne, hds, rfl⟩
    · exact ⟨hne, hds, rfl⟩
  · rintro ⟨hne, hds, rfl⟩
    rcases eq_or_plus_withoutPlus cs with hcs | hcs
    · rw [hcs] at hne hds ⊢
      exact .bare hds hne
    · rw [hcs]
      exact .plus hds hne

/-- A number of 32 bits is read from digits only, and only as far as it fits. -/
theorem readUInt32?_eq (cs : List Char) :
    readUInt32? cs =
      if (withoutPlus cs).isEmpty || !(withoutPlus cs).all Char.isDigit then none
      else if digitsValue (withoutPlus cs) < UInt32.size then
        some (UInt32.ofNat (digitsValue (withoutPlus cs)))
      else none :=
  rfl

/-- Exactly the numbers that fit into 32 bits are read, each as itself. -/
theorem readUInt32?_eq_some_iff {cs : List Char} {n : UInt32} :
    readUInt32? cs = some n ↔ IsCardinal cs n.toNat := by
  rw [readUInt32?_eq, isCardinal_iff, Decimal.digitsValue_eq]
  constructor
  · intro h
    split at h
    · cases h
    · next hdigits =>
        simp only [Bool.or_eq_true, not_or, Bool.not_eq_true, Bool.not_eq_false',
          List.isEmpty_eq_false_iff, List.all_eq_true] at hdigits
        -- The value is a natural number until it has passed the bound, so nothing wraps around.
        split at h
        · next hlt =>
            cases h
            exact ⟨hdigits.1, hdigits.2, (UInt32.toNat_ofNat_of_lt' hlt).symm⟩
        · cases h
  · rintro ⟨hne, hds, hvalue⟩
    have hempty : (withoutPlus cs).isEmpty = false := List.isEmpty_eq_false_iff.2 hne
    have hall : (withoutPlus cs).all Char.isDigit = true := List.all_eq_true.2 hds
    rw [hempty, hall, if_neg (by decide), hvalue, if_pos n.toNat_lt_size, UInt32.ofNat_toNat]

example : readUInt32? "+0000000000004294967295".toList = some 4294967295 := by decide

example : readUInt32? "4294967296".toList = none := by decide

/-! ### Fields -/

/-- The text, blanks at its two ends apart, is a number of 32 bits. -/
def IsNumber32 (text : String) (n : Nat) : Prop :=
  ∃ cs, Text.IsTrimmed text.toList cs ∧ IsCardinal cs n ∧ n ≤ 4294967295

/-- A number of 32 bits is at most the greatest of them. -/
theorem IsNumber32.le {text : String} {n : Nat} (h : IsNumber32 text n) : n ≤ 4294967295 := by
  obtain ⟨cs, -, -, hle⟩ := h
  exact hle

/-- A text has the number that it denotes, if there are bits enough for it. -/
theorem isNumber32_iff {text : String} {n : UInt32} :
    IsNumber32 text n.toNat ↔ readUInt32? (Text.trimChars text.toList) = some n := by
  rw [readUInt32?_eq_some_iff]
  constructor
  · rintro ⟨cs, htrim, hn, -⟩
    rwa [Text.isTrimmed_iff.1 htrim]
  · intro hn
    exact ⟨_, Text.isTrimmed_trimChars _, hn, Nat.le_of_lt_succ n.toNat_lt_size⟩

/-- The decimal places that an attribute declares. Without the attribute there are none. -/
inductive DeclaresPlaces : Option String → Option UInt32 → Prop
  | absent : DeclaresPlaces none none
  | given {text : String} {n : Nat} {places : UInt32} (h : IsNumber32 text n)
      (hplaces : places.toNat = n) : DeclaresPlaces (some text) (some places)

/-- Decimal places are declared well exactly when they are not given, or given as a number of 32
bits. -/
theorem exists_declaresPlaces_iff {value? : Option String} :
    (∃ places, DeclaresPlaces value? places) ↔
      ∀ text, value? = some text → ∃ n, IsNumber32 text n := by
  constructor
  · rintro ⟨places, - | ⟨h, -⟩⟩ text ⟨⟩
    exact ⟨_, h⟩
  · intro h
    cases value? with
    | none => exact ⟨none, .absent⟩
    | some text =>
        obtain ⟨n, hn⟩ := h text rfl
        exact ⟨_, .given hn (UInt32.toNat_ofNat_of_lt' (Nat.lt_succ_of_le hn.le))⟩

/-- The element declares the field: with the number that its decimal places denote, and with all
other attributes as they stand. -/
structure Element.DeclaresField (e : Element) (f : Field) : Prop where
  name : e.attribute? "name" = some f.name
  type : e.attribute? "type" = some f.type
  decimalPlaces : DeclaresPlaces (e.attribute? "decimalplaces") f.decimalPlaces
  fileOperation : f.fileOperation = e.attribute? "operation"
  instrumented : f.instrumented = e.attribute? "instrumented"

/-- What an element comes to that is to declare a field: the field, or what is wrong first. -/
inductive Element.ReadsAsField (e : Element) : Except CompileError Field → Prop
  | noName (h : e.attribute? "name" = none) :
      ReadsAsField e (.error (.missingAttribute e.name "name"))
  | noType {name : String} (hname : e.attribute? "name" = some name)
      (h : e.attribute? "type" = none) :
      ReadsAsField e (.error (.missingAttribute e.name "type"))
  | noNumber {name type text : String} (hname : e.attribute? "name" = some name)
      (htype : e.attribute? "type" = some type)
      (htext : e.attribute? "decimalplaces" = some text) (h : ∀ n, ¬ IsNumber32 text n) :
      ReadsAsField e (.error (.invalidDecimalPlaces name text))
  | field {f : Field} (h : e.DeclaresField f) : ReadsAsField e (.ok f)

/-- The decimal places that are read are those that are declared. -/
theorem Element.decimalPlaces?_eq_some_iff {e : Element} {places : Option UInt32} :
    e.decimalPlaces? = some places ↔ DeclaresPlaces (e.attribute? "decimalplaces") places := by
  rw [decimalPlaces?]
  cases e.attribute? "decimalplaces" with
  | none =>
      constructor
      · intro h
        cases h
        exact .absent
      · rintro ⟨⟩
        rfl
  | some text =>
      rw [Option.map_eq_some_iff]
      constructor
      · rintro ⟨n, hn, rfl⟩
        exact .given (isNumber32_iff.2 hn) rfl
      · rintro (_ | ⟨h, rfl⟩)
        exact ⟨_, isNumber32_iff.1 h, rfl⟩

namespace Field

/-- The field that is read is the one that the element declares. -/
theorem ofElement_eq_ok_iff_declares {e : Element} {f : Field} :
    ofElement e = .ok f ↔ e.DeclaresField f := by
  rw [ofElement_eq_ok_iff, Element.decimalPlaces?_eq_some_iff]
  constructor
  · rintro ⟨hname, htype, hplaces, hoperation, hinstrumented⟩
    exact ⟨hname, htype, hplaces, hoperation, hinstrumented⟩
  · rintro ⟨hname, htype, hplaces, hoperation, hinstrumented⟩
    exact ⟨hname, htype, hplaces, hoperation, hinstrumented⟩

/-- Decimal places that are no number of 32 bits are refused, with the field and the text. -/
theorem ofElement_of_noNumber {e : Element} {name type text : String}
    (hname : e.attribute? "name" = some name) (htype : e.attribute? "type" = some type)
    (htext : e.attribute? "decimalplaces" = some text) (h : ∀ n, ¬ IsNumber32 text n) :
    ofElement e = .error (.invalidDecimalPlaces name text) := by
  have hnone : readUInt32? (Text.trimChars text.toList) = none :=
    Option.eq_none_iff_forall_ne_some.2 fun n hn => h n.toNat (isNumber32_iff.2 hn)
  rw [ofElement, Element.requiredAttribute_eq_ok_iff.2 hname,
    Element.requiredAttribute_eq_ok_iff.2 htype, htext]
  simp only [except_ok_bind, hnone]
  rfl

/-- What an element reads as is what it comes to. -/
theorem ofElement_of_readsAsField {e : Element} {r : Except CompileError Field}
    (h : e.ReadsAsField r) : ofElement e = r := by
  cases h with
  | noName h => rw [ofElement, Element.requiredAttribute_of_none h, except_error_bind]
  | noType hname h =>
      rw [ofElement, Element.requiredAttribute_eq_ok_iff.2 hname,
        Element.requiredAttribute_of_none h, except_ok_bind, except_error_bind]
  | noNumber hname htype htext h => exact ofElement_of_noNumber hname htype htext h
  | field h => exact ofElement_eq_ok_iff_declares.2 h

/-- Every element reads as something. -/
theorem exists_readsAsField (e : Element) : ∃ r, e.ReadsAsField r := by
  -- The attributes are asked for in this order, so each case knows what the earlier ones found.
  cases hname : e.attribute? "name" with
  | none => exact ⟨_, .noName hname⟩
  | some name =>
  cases htype : e.attribute? "type" with
  | none => exact ⟨_, .noType hname htype⟩
  | some type =>
  by_cases hplaces : ∃ places, DeclaresPlaces (e.attribute? "decimalplaces") places
  · obtain ⟨places, hplaces⟩ := hplaces
    exact ⟨.ok ⟨name, type, places, _, _⟩, .field ⟨hname, htype, hplaces, rfl, rfl⟩⟩
  · rw [exists_declaresPlaces_iff] at hplaces
    push Not at hplaces
    obtain ⟨text, htext, h⟩ := hplaces
    exact ⟨_, .noNumber hname htype htext h⟩

/-- An element reads as the field that it declares, with the number that is written for its decimal
places, or it is refused for its name, its type or its decimal places, whichever is wrong first. It
is a field exactly if it has a name and a type and what is written for decimal places, if anything
is, is a number of 32 bits. -/
theorem ofElement_reads (e : Element) :
    (∀ r, ofElement e = r ↔ e.ReadsAsField r) ∧
    ((∃ f, ofElement e = .ok f) ↔
      (∃ name, e.attribute? "name" = some name) ∧ (∃ type, e.attribute? "type" = some type) ∧
        ∀ text, e.attribute? "decimalplaces" = some text → ∃ n, IsNumber32 text n) := by
  have hreads (r : Except CompileError Field) : ofElement e = r ↔ e.ReadsAsField r := by
    refine ⟨?_, ofElement_of_readsAsField⟩
    rintro rfl
    -- There is something that the element is read as, and it is what is read.
    obtain ⟨r, hr⟩ := exists_readsAsField e
    rwa [ofElement_of_readsAsField hr]
  refine ⟨hreads, ?_⟩
  rw [← exists_declaresPlaces_iff]
  constructor
  · rintro ⟨f, hf⟩
    obtain ⟨hname, htype, hplaces, -, -⟩ := ofElement_eq_ok_iff_declares.1 hf
    exact ⟨⟨_, hname⟩, ⟨_, htype⟩, ⟨_, hplaces⟩⟩
  · rintro ⟨⟨name, hname⟩, ⟨type, htype⟩, ⟨places, hplaces⟩⟩
    exact ⟨⟨name, type, places, _, _⟩,
      ofElement_eq_ok_iff_declares.2 ⟨hname, htype, hplaces, rfl, rfl⟩⟩

end Field

end FlowGraph
