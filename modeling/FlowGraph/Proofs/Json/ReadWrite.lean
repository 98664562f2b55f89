import FlowGraph.Proofs.Json.Atoms

/-!
# `FlowGraph.Proofs.Json.ReadWrite`: written data reads back

`Tree.ofData` is the tree that says the same as structured data. `readValue_write` proves
that reading what `write` has written, in either layout and on any level, yields this tree
and leaves what follows. The induction is on the data; its other two parts read the items of
a sequence and the entries of a mapping. `write` sets the first of them apart, the reader does
not: `itemsFrom` and `entriesFrom` are the text from any of them on.

The reader's fuel is no concern: twice the length of the text is enough for the value and
for every value inside of it (`read_render`).
-/

set_option autoImplicit false

namespace FlowGraph.Json

namespace Tree

mutual

/-- The tree that says the same as the data. -/
def ofData : Data → Tree
  | .number n => .number (Numeral.ofNat n)
  | .text s => .text (some s)
  | .sequence items => .array (ofItems items) true
  | .mapping entries => .object (ofEntries entries) true

/-- The trees of the items of a sequence. -/
def ofItems : List Data → List Tree
  | [] => []
  | x :: xs => ofData x :: ofItems xs

/-- The members of the entries of a mapping. -/
def ofEntries : List (String × Data) → List (Tree × Tree)
  | [] => []
  | (k, v) :: es => (.text (some k), ofData v) :: ofEntries es

end

/-- The trees of the items of a sequence, one by one. -/
theorem ofItems_eq_map (xs : List Data) : ofItems xs = xs.map ofData := by
  induction xs with
  | nil => rfl
  | cons x xs ih => rw [ofItems, ih, List.map_cons]

/-- The trees of the entries of a mapping, each under its key. -/
theorem ofEntries_eq_map (es : List (String × Data)) :
    ofEntries es = es.map (fun e => (.text (some e.1), ofData e.2)) := by
  induction es with
  | nil => rfl
  | cons e es ih => rw [ofEntries, ih, List.map_cons]

end Tree

open FlowGraph.Json.Tree

/-! ### White space -/

/-- White space before a text is passed over. -/
theorem skipSpaces_append {s : List Char} (hs : ∀ c ∈ s, isSpace c = true) (r : List Char) :
    skipSpaces (s ++ r) = skipSpaces r := List.dropWhile_append_of_pos hs

/-- Nothing is passed over before a character that is no white space. -/
theorem skipSpaces_cons {c : Char} (h : isSpace c = false) (r : List Char) :
    skipSpaces (c :: r) = c :: r := by simp [skipSpaces, h]

/-- What a layout puts between two tokens is white space. -/
theorem isSpace_gap (l : Layout) (depth : Nat) : ∀ c ∈ l.gap depth, isSpace c = true := by
  cases l with
  | compact => simp [Layout.gap]
  | indented =>
      intro c hc
      rcases List.mem_cons.1 hc with rfl | hc
      · decide
      · rw [List.eq_of_mem_replicate hc]
        decide

/-- White space in front of a value is passed over. -/
theorem readValue_append {s : List Char} (hs : ∀ c ∈ s, isSpace c = true) (fuel : Nat)
    (r : List Char) : readValue fuel (s ++ r) = readValue fuel r := by
  cases fuel with
  | zero => simp only [readValue]
  | succ fuel => simp only [readValue, skipSpaces_append hs]

/-- The end of a container, or the mark between its parts, ends a number before it. -/
theorem endsNumber_gap (l : Layout) (depth : Nat) {c : Char}
    (h : c.isDigit = false ∧ c ≠ '.' ∧ c ≠ 'e' ∧ c ≠ 'E') (r : List Char) :
    EndsNumber (l.gap depth ++ c :: r) := by
  cases l with
  | compact => exact endsNumber_cons h r
  | indented => exact endsNumber_cons (by decide) _

/-! ### The front of a value -/

/-- A digit is no white space and opens or closes nothing but a number. -/
theorem eq_of_isDigit {c : Char} (h : c.isDigit = true) :
    isSpace c = false ∧ c ∉ ['{', '[', '"', '-', 'n', 't', 'f', ']', '}'] := by
  constructor
  · cases hs : isSpace c with
    | false => rfl
    | true =>
        simp only [isSpace, Bool.or_eq_true, beq_iff_eq] at hs
        rcases hs with ((rfl | rfl) | rfl) | rfl <;> exact absurd h (by decide)
  · intro hc
    simp only [List.mem_cons, List.not_mem_nil, or_false] at hc
    rcases hc with rfl | rfl | rfl | rfl | rfl | rfl | rfl | rfl | rfl <;>
      exact absurd h (by decide)

/-- A written value starts with a character that is neither blank nor the end of a
container. -/
theorem write_eq_cons (l : Layout) (depth : Nat) (d : Data) :
    ∃ c r, write l depth d = c :: r ∧ isSpace c = false ∧ c ≠ ']' := by
  cases d with
  | number n =>
      -- A number starts with a digit.
      have hd := isDigit_toDigits n
      have hne : Nat.toDigits 10 n ≠ [] := Nat.toDigits_ne_nil
      cases hds : Nat.toDigits 10 n with
      | nil => exact absurd hds hne
      | cons c r =>
          have hc := eq_of_isDigit (hd c (by simp [hds]))
          refine ⟨c, r, by simp [write, hds], hc.1, ?_⟩
          rintro rfl
          exact hc.2 (by simp)
  | text s => exact ⟨'"', _, by rw [write, quote]; rfl, by decide, by decide⟩
  | sequence items =>
      cases items with
      | nil => exact ⟨'[', _, by rw [write], by decide, by decide⟩
      | cons x xs => exact ⟨'[', _, by rw [write]; rfl, by decide, by decide⟩
  | mapping entries =>
      cases entries with
      | nil => exact ⟨'{', _, by rw [write], by decide, by decide⟩
      | cons e es => exact ⟨'{', _, by rw [write]; rfl, by decide, by decide⟩

/-- Nothing is written as the empty text, so a reader that gets on needs fuel. -/
theorem length_write_pos (l : Layout) (depth : Nat) (d : Data) :
    0 < (write l depth d).length := by
  obtain ⟨c, r, h, -⟩ := write_eq_cons l depth d
  simp [h]

/-! ### Atoms -/

/-- A quoted text, with its quotes told apart from what it holds. -/
theorem quote_append (s : String) (r : List Char) :
    quote s ++ r = '"' :: (s.toList.flatMap escape ++ '"' :: r) := by
  simp [quote, List.append_assoc]

/-- A quoted string reads as a text. -/
theorem readValue_quote (fuel : Nat) (s : String) (r : List Char) :
    readValue (fuel + 1) (quote s ++ r) = (.text (some s), r) := by
  rw [quote_append, readValue, skipSpaces_cons (by decide)]
  simp [readString?_quote, joinPairs?_map_toNat, orBroken]

/-- The digits of a number read as its numeral. -/
theorem readValue_number (fuel n : Nat) {r : List Char} (h : EndsNumber r) :
    readValue (fuel + 1) (Nat.toDigits 10 n ++ r) = (.number (Numeral.ofNat n), r) := by
  have hd := isDigit_toDigits n
  have hread := readNumeral?_toDigits n h
  cases hds : Nat.toDigits 10 n with
  | nil => exact absurd hds Nat.toDigits_ne_nil
  | cons c ds =>
      obtain ⟨hspace, hc⟩ := eq_of_isDigit (hd c (by simp [hds]))
      simp only [List.mem_cons, List.not_mem_nil, or_false, not_or] at hc
      obtain ⟨h1, h2, h3, h4, h5, h6, h7, -, -⟩ := hc
      rw [hds] at hread
      rw [readValue, List.cons_append, skipSpaces_cons hspace]
      rw [List.cons_append] at hread
      simp [hread, orBroken, h1, h2, h3, h4, h5, h6, h7]

/-! ### What stands behind a value -/

/-- A written value ends a number that stands before its successor: what follows the value is
a further part of its container or the end of it. -/
theorem endsNumber_writeItems (l : Layout) (depth : Nat) (xs : List Data) (r : List Char) :
    EndsNumber (writeItems l depth xs ++ r) := by
  cases xs with
  | nil =>
      rw [writeItems, List.append_assoc]
      exact endsNumber_gap l depth (by decide) r
  | cons x xs => exact endsNumber_cons (by decide) _

/-- A number ends before what is written of the entries that follow it. -/
theorem endsNumber_writeEntries (l : Layout) (depth : Nat) (es : List (String × Data))
    (r : List Char) : EndsNumber (writeEntries l depth es ++ r) := by
  cases es with
  | nil =>
      rw [writeEntries, List.append_assoc]
      exact endsNumber_gap l depth (by decide) r
  | cons e es => exact endsNumber_cons (by decide) _

/-- The colon behind a key, with the value after it. -/
theorem skipSpaces_colon (l : Layout) (r : List Char) :
    ∃ s, skipSpaces (l.colon ++ r) = ':' :: (s ++ r) ∧ ∀ c ∈ s, isSpace c = true := by
  cases l with
  | compact => exact ⟨[], skipSpaces_cons (by decide) r, by simp⟩
  | indented => exact ⟨[' '], skipSpaces_cons (by decide) _, by simp [isSpace]⟩

/-! ### Parts of containers -/

/-- The items of a sequence from one of them on, and its end. -/
def itemsFrom (l : Layout) (depth : Nat) : List Data → List Char
  | [] => []
  | x :: xs => write l (depth + 1) x ++ writeItems l depth xs

/-- The entries of a mapping from one of them on, and its end. -/
def entriesFrom (l : Layout) (depth : Nat) : List (String × Data) → List Char
  | [] => []
  | (k, v) :: es => quote k ++ (l.colon ++ (write l (depth + 1) v ++ writeEntries l depth es))

/-- A sequence that is not empty: a bracket, a gap and its items. -/
theorem write_sequence_cons (l : Layout) (depth : Nat) (x : Data) (xs : List Data) :
    write l depth (.sequence (x :: xs))
      = '[' :: (l.gap (depth + 1) ++ itemsFrom l depth (x :: xs)) := by
  simp [write, itemsFrom]

/-- The items that follow another: a comma, a gap and the items. -/
theorem writeItems_cons (l : Layout) (depth : Nat) (x : Data) (xs : List Data) :
    writeItems l depth (x :: xs) = ',' :: (l.gap (depth + 1) ++ itemsFrom l depth (x :: xs)) := by
  simp [writeItems, itemsFrom]

/-- A mapping that is not empty: a brace, a gap and its entries. -/
theorem write_mapping_cons (l : Layout) (depth : Nat) (e : String × Data)
    (es : List (String × Data)) :
    write l depth (.mapping (e :: es))
      = '{' :: (l.gap (depth + 1) ++ entriesFrom l depth (e :: es)) := by
  simp [write, entriesFrom]

/-- The entries that follow another: a comma, a gap and the entries. -/
theorem writeEntries_cons (l : Layout) (depth : Nat) (e : String × Data)
    (es : List (String × Data)) :
    writeEntries l depth (e :: es)
      = ',' :: (l.gap (depth + 1) ++ entriesFrom l depth (e :: es)) := by
  simp [writeEntries, entriesFrom]

/-- Items start with the first character of their first item, which closes no sequence. -/
theorem itemsFrom_eq_cons (l : Layout) (depth : Nat) (x : Data) (xs : List Data) :
    ∃ c r, itemsFrom l depth (x :: xs) = c :: r ∧ isSpace c = false ∧ c ≠ ']' := by
  obtain ⟨c, r, hfront, hspace, hclose⟩ := write_eq_cons l (depth + 1) x
  exact ⟨c, r ++ writeItems l depth xs, by rw [itemsFrom, hfront]; rfl, hspace, hclose⟩

/-- Entries start with the quote of their first key. -/
theorem entriesFrom_eq_cons (l : Layout) (depth : Nat) (e : String × Data)
    (es : List (String × Data)) : ∃ r, entriesFrom l depth (e :: es) = '"' :: r :=
  ⟨_, quote_append e.1 _⟩

/-- White space in front of an item is passed over. -/
theorem readItems_append {s : List Char} (hs : ∀ c ∈ s, isSpace c = true) (fuel : Nat)
    (r : List Char) : readItems fuel (s ++ r) = readItems fuel r := by
  cases fuel with
  | zero => simp only [readItems]
  | succ fuel => simp only [readItems, readValue_append hs]

/-- White space in front of an entry is passed over. -/
theorem readMembers_append {s : List Char} (hs : ∀ c ∈ s, isSpace c = true) (fuel : Nat)
    (r : List Char) : readMembers fuel (s ++ r) = readMembers fuel r := by
  cases fuel with
  | zero => simp only [readMembers]
  | succ fuel => simp only [readMembers, readValue_append hs]

/-! ### Values -/

mutual

/-- Reading a written value yields its tree and leaves what follows. -/
theorem readValue_write (l : Layout) : ∀ (d : Data) (depth fuel : Nat) (r : List Char),
    2 * (write l depth d).length ≤ fuel → EndsNumber r →
      readValue fuel (write l depth d ++ r) = (ofData d, r)
  | d, depth, 0, r, hfuel, _ => by
      have hpos := length_write_pos l depth d
      omega
  | .number n, depth, fuel + 1, r, _, hr => by
      have hdigits : write l depth (.number n) = Nat.toDigits 10 n := by simp [write]
      rw [hdigits, readValue_number fuel n hr, ofData]
  | .text s, depth, fuel + 1, r, _, _ => by
      rw [write, readValue_quote, ofData]
  | .sequence [], depth, fuel + 1, r, _, _ => by
      simp [write, readValue, skipSpaces, isSpace, ofData, ofItems]
  | .sequence (x :: xs), depth, fuel + 1, r, hfuel, _ => by
      rw [write_sequence_cons, List.length_cons, List.length_append] at hfuel
      have hitems := readItems_write l (x :: xs) depth fuel r (by simp) (by omega)
      -- The first item is not the end of the array, so the reader goes on to the items.
      obtain ⟨c, s, hfront, hspace, hclose⟩ := itemsFrom_eq_cons l depth x xs
      rw [hfront, List.cons_append] at hitems
      rw [write_sequence_cons, hfront, List.cons_append, List.append_assoc, readValue,
        skipSpaces_cons (by decide)]
      simp only [List.cons_append]
      rw [skipSpaces_append (isSpace_gap l (depth + 1)), skipSpaces_cons hspace]
      split
      · next heq => exact absurd (List.cons.inj heq).1 hclose
      · rw [hitems, ofData]
  | .mapping [], depth, fuel + 1, r, _, _ => by
      simp [write, readValue, skipSpaces, isSpace, ofData, ofEntries]
  | .mapping (e :: es), depth, fuel + 1, r, hfuel, _ => by
      rw [write_mapping_cons, List.length_cons, List.length_append] at hfuel
      have hentries := readMembers_write l (e :: es) depth fuel r (by simp) (by omega)
      -- A key opens with a quotation mark, so the object does not end here.
      obtain ⟨s, hfront⟩ := entriesFrom_eq_cons l depth e es
      rw [hfront, List.cons_append] at hentries
      rw [write_mapping_cons, hfront, List.cons_append, List.append_assoc, readValue,
        skipSpaces_cons (by decide)]
      simp only [List.cons_append]
      rw [skipSpaces_append (isSpace_gap l (depth + 1)), skipSpaces_cons (by decide)]
      split
      · next heq => exact absurd (List.cons.inj heq).1 (by decide)
      · rw [hentries, ofData]

/-- Reading written items, up to the end of their array. -/
theorem readItems_write (l : Layout) : ∀ (xs : List Data) (depth fuel : Nat) (r : List Char),
    xs ≠ [] → 2 * (itemsFrom l depth xs).length ≤ fuel →
      readItems fuel (itemsFrom l depth xs ++ r) = (ofItems xs, true, r)
  | [], _, _, _, h, _ => absurd rfl h
  | x :: xs, depth, fuel, r, _, hfuel => by
      have hpos := length_write_pos l (depth + 1) x
      rw [itemsFrom, List.length_append] at hfuel
      obtain ⟨fuel, rfl⟩ := Nat.exists_eq_add_of_le' (show 1 ≤ fuel by omega)
      have hrest := readItems_write l xs depth fuel r
      have hlen : 0 < (writeItems l depth xs).length := by
        cases xs <;> simp [writeItems]
      have hx := readValue_write l x (depth + 1) fuel (writeItems l depth xs ++ r) (by omega)
        (endsNumber_writeItems l depth xs r)
      rw [itemsFrom, List.append_assoc, readItems, hx]
      -- Behind the item stands the end of the array, or a comma and the next item.
      cases xs with
      | nil =>
          simp only [writeItems, List.append_assoc, List.singleton_append]
          rw [skipSpaces_append (isSpace_gap l depth), skipSpaces_cons (by decide)]
          rfl
      | cons y ys =>
          rw [writeItems_cons, List.length_cons, List.length_append] at hfuel
          have hys := hrest (by simp) (by omega)
          rw [writeItems_cons, List.cons_append, List.append_assoc]
          simp only
          rw [skipSpaces_cons (by decide)]
          simp only [readItems_append (isSpace_gap l (depth + 1)), hys]
          rfl

/-- Reading written entries, up to the end of their object. -/
theorem readMembers_write (l : Layout) : ∀ (es : List (String × Data)) (depth fuel : Nat)
    (r : List Char), es ≠ [] → 2 * (entriesFrom l depth es).length ≤ fuel →
      readMembers fuel (entriesFrom l depth es ++ r) = (ofEntries es, true, r)
  | [], _, _, _, h, _ => absurd rfl h
  | (k, v) :: es, depth, fuel, r, _, hfuel => by
      have hpos := length_write_pos l (depth + 1) v
      rw [entriesFrom, List.length_append, List.length_append, List.length_append] at hfuel
      -- The key and the value are read with one unit of fuel less than the entry.
      obtain ⟨fuel, rfl⟩ := Nat.exists_eq_add_of_le' (show 2 ≤ fuel by omega)
      have hrest := readMembers_write l es depth (fuel + 1) r
      obtain ⟨s, hcolon, hs⟩ := skipSpaces_colon l
        (write l (depth + 1) v ++ (writeEntries l depth es ++ r))
      have hlen : 0 < (writeEntries l depth es).length := by
        cases es <;> simp [writeEntries]
      have hv := readValue_write l v (depth + 1) (fuel + 1) (writeEntries l depth es ++ r)
        (by omega) (endsNumber_writeEntries l depth es r)
      rw [← readValue_append hs] at hv
      rw [entriesFrom, List.append_assoc, List.append_assoc, List.append_assoc, readMembers,
        readValue_quote]
      simp only [hcolon, hv]
      -- Behind the value stands the end of the object, or a comma and the next entry.
      cases es with
      | nil =>
          simp only [writeEntries, List.append_assoc, List.singleton_append]
          rw [skipSpaces_append (isSpace_gap l depth), skipSpaces_cons (by decide)]
          rfl
      | cons e es =>
          rw [writeEntries_cons, List.length_cons, List.length_append] at hfuel
          have hes := hrest (by simp) (by omega)
          rw [writeEntries_cons, List.cons_append, List.append_assoc,
            skipSpaces_cons (by decide)]
          simp only [readMembers_append (isSpace_gap l (depth + 1)), hes]
          rfl

end

/-- The text of data reads as its tree, and nothing is left. -/
theorem read_render (l : Layout) (d : Data) :
    Tree.read (render l d).toList = (ofData d, []) := by
  have h := readValue_write l d 0 (2 * (write l 0 d).length + 2) [] (by omega) endsNumber_nil
  rw [List.append_nil] at h
  rw [render, String.toList_ofList, Tree.read, h]

end FlowGraph.Json
