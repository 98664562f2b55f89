import FlowGraph.Json.Decode
import FlowGraph.Proofs.Json.ReadWrite

/-!
# `FlowGraph.Proofs.Json.Records`: decoders on trees of written data

What the decoders of `FlowGraph.Json.Decode` answer on `Tree.ofData`. Lists and tables are
read item by item (`list_ofData`, `table_ofData`). A record is read by taking up its entries
one after another (`decoder_ofData`), if they are some of its fields in order: then no
entry repeats another and none is skipped. `TakesUp` says both of a stretch of entries, and
stretches follow one another (`TakesUp.append`), so a record that may leave parts out is
settled part by part.
-/

set_option autoImplicit false

namespace FlowGraph.Json

open FlowGraph.Json.Tree

variable {α β ρ : Type}

/-! ### Lists and tables -/

/-- Values that are read back one by one are read back together, in their order. -/
theorem mapM_map_of_ok {ε : Type} {f : β → Except ε α} {g : α → β} {xs : List α}
    (h : ∀ x ∈ xs, f (g x) = .ok x) : (xs.map g).mapM f = .ok xs := by
  induction xs with
  | nil => rfl
  | cons x xs ih =>
      rw [List.map_cons, List.mapM_cons, h x (by simp), ih (fun y hy => h y (by simp [hy]))]
      rfl

/-- A written list reads back if its items do. -/
theorem list_ofData {d : Decoder α} {f : α → Data} {xs : List α}
    (h : ∀ x ∈ xs, d (ofData (f x)) = .ok x) :
    Decoder.list d (ofData (.sequence (xs.map f))) = .ok xs := by
  rw [ofData, ofItems_eq_map, Decoder.list, List.map_map, mapM_map_of_ok (g := ofData ∘ f) h]
  rfl

/-- A written table reads back if its keys and values do. -/
theorem table_ofData {κ : Type} [DecidableEq κ] {key : String → Except ReadError κ}
    {d : Decoder α} {name : κ → String} {f : α → Data} (t : Table κ α)
    (hkey : ∀ k, key (name k) = .ok k) (hvalue : ∀ a, d (ofData (f a)) = .ok a) :
    Decoder.table key d (ofData (.mapping (t.entries.map (fun e => (name e.1, f e.2)))))
      = .ok t := by
  rw [ofData, ofEntries_eq_map, Decoder.table, List.map_map, @mapM_map_of_ok _ _ _ _ _ t.entries]
  -- Setting the entries one after another makes the table again: no key comes twice.
  · show (if true = true then Except.ok (Table.ofList t.entries) else .error .malformed) = _
    rw [if_pos rfl, Table.ofList_entries]
  · intro e _
    simp only [Function.comp_apply, hkey, hvalue]
    rfl

/-! ### Numbers -/

/-- A number of 32 bits is read back as it was written. -/
theorem uint32_ofData (n : UInt32) : Decoder.uint32 (ofData (.number n.toNat)) = .ok n := by
  have hlt : n.toNat < UInt64.size := Nat.lt_trans n.toNat_lt (by decide)
  have hsize : n.toNat < UInt32.size := n.toNat_lt
  rw [ofData, Decoder.uint32, value?_ofNat hlt]
  simp [hsize]

/-! ### Records -/

/-- Taking up entries that are fields not met before is taking up each after the other. -/
theorem putMembers_ofEntries (R : RecordType ρ α) (es : List (String × Data)) (seen : List String)
    (r : ρ) (hfields : ∀ k ∈ es.map Prod.fst, k ∈ R.fields)
    (hseen : ∀ k ∈ es.map Prod.fst, k ∉ seen) (hnodup : (es.map Prod.fst).Nodup) :
    R.putMembers seen r (ofEntries es)
      = es.foldlM (fun r e => R.put r e.1 (ofData e.2)) r := by
  induction es generalizing seen r with
  | nil => rfl
  | cons e es ih =>
      obtain ⟨k, v⟩ := e
      rw [List.map_cons] at hfields hseen hnodup
      obtain ⟨hk, hnodup⟩ := List.nodup_cons.1 hnodup
      -- What has been seen grows by this key, which no later entry has.
      have hseen' : ∀ l ∈ es.map Prod.fst, l ∉ k :: seen := by
        intro l hl hmem
        rcases List.mem_cons.1 hmem with rfl | hmem
        · exact hk hl
        · exact hseen l (by simp [hl]) hmem
      have ih' (s : ρ) := ih (k :: seen) s (fun l hl => hfields l (by simp [hl])) hseen' hnodup
      rw [ofEntries, RecordType.putMembers, if_pos (hfields k (by simp)),
        if_neg (hseen k (by simp)), List.foldlM_cons]
      simp only [ih']

/-- Taking up entries under some of the keys `ks`, in this order, leads from `r` to `s`. -/
structure TakesUp (R : RecordType ρ α) (ks : List String) (es : List (String × Data))
    (r s : ρ) : Prop where
  keys : (es.map Prod.fst).Sublist ks
  fold : es.foldlM (fun r e => R.put r e.1 (ofData e.2)) r = .ok s

namespace TakesUp

variable {R : RecordType ρ α}

/-- One stretch of entries after another. -/
theorem append {ks ls : List String} {es fs : List (String × Data)} {r s t : ρ}
    (h : TakesUp R ks es r s) (h' : TakesUp R ls fs s t) :
    TakesUp R (ks ++ ls) (es ++ fs) r t := by
  constructor
  · rw [List.map_append]
    exact h.keys.append h'.keys
  · rw [List.foldlM_append, h.fold]
    exact h'.fold

/-- A single entry. -/
theorem single {k : String} {v : Data} {r s : ρ} (h : R.put r k (ofData v) = .ok s) :
    TakesUp R [k] [(k, v)] r s := by
  constructor
  · exact List.Sublist.refl _
  · rw [List.foldlM_cons, h]
    rfl

/-- A single entry whose value is read by a reader of its own. -/
theorem of_read {β : Type} {read : Decoder β} {k : String} {v : Data} {x : β} {r : ρ} (f : β → ρ)
    (hread : read (ofData v) = .ok x)
    (hput : R.put r k (ofData v) = read (ofData v) >>= fun y => .ok (f y)) :
    TakesUp R [k] [(k, v)] r (f x) := by
  apply single
  rw [hput, hread]
  rfl

/-- No entry at all. -/
theorem nil (ks : List String) (r : ρ) : TakesUp R ks [] r r := ⟨List.nil_sublist _, rfl⟩

/-- A text that may be missing. What is left out is what the record has without it. -/
theorem optionalText {k : String} (f : Option String → ρ) (o : Option String)
    (h : ∀ t, R.put (f none) k (.text (some t)) = .ok (f (some t))) :
    TakesUp R [k] (Data.optionalText k o) (f none) (f o) := by
  cases o with
  | none => exact nil [k] (f none)
  | some t => exact single (h t)

end TakesUp

/-- A record reads back from a mapping of some of its fields in order, if taking up the
entries leads to a record that can be finished. -/
theorem decoder_ofData {R : RecordType ρ α} {es : List (String × Data)} {r : ρ} {a : α}
    (hnodup : R.fields.Nodup) (h : TakesUp R R.fields es R.start r) (hfinish : R.finish r = .ok a) :
    R.decoder (ofData (.mapping es)) = .ok a := by
  rw [ofData, RecordType.decoder,
    putMembers_ofEntries R es [] R.start (fun k hk => h.keys.subset hk) (by simp)
      (hnodup.sublist h.keys), h.fold]
  simp only [bind, Except.bind, if_true, hfinish]

end FlowGraph.Json
