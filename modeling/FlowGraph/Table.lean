/-!
# `FlowGraph.Table`: entries in the order of their first arrival

A `Table κ α` is a list of keyed values in which no key occurs twice. Setting a known key
replaces its value where it stands; setting a new one appends. Positions are therefore
stable: an entry never moves once it is in. The statements:

* `get?_set_self`, `get?_set_of_ne`: a set key reads back, all others read as before.
* `keys_set`: setting keeps the order of first arrival.
* `keys_modifyAt`, `size_modifyAt`: changing the value at a position moves nothing.
* `get?_eq_some_iff`: looking up a key is membership of the entry.
* `ofList_entries`: a table is what its own entries make.
* `indexOf?_eq_some_iff`, `indexOf?_append`: a key has one position, and appending leaves it.
-/

set_option autoImplicit false

namespace FlowGraph

/-- Keyed values in order of first arrival, each key at most once. -/
structure Table (κ α : Type) where
  /-- The entries, first arrival first. -/
  entries : List (κ × α)
  /-- No key occurs twice. -/
  nodup_keys : (entries.map Prod.fst).Nodup
deriving DecidableEq

namespace Table

variable {κ α : Type}

/-- The table without entries. -/
def empty : Table κ α := ⟨[], by simp⟩

instance : Inhabited (Table κ α) := ⟨empty⟩

/-- The keys in order. -/
def keys (t : Table κ α) : List κ := t.entries.map Prod.fst

/-- The values in order. -/
def values (t : Table κ α) : List α := t.entries.map Prod.snd

/-- The number of entries. -/
def size (t : Table κ α) : Nat := t.entries.length

/-- Whether there is no entry. -/
def isEmpty (t : Table κ α) : Bool := t.entries.isEmpty

/-- The value at a position. -/
def at? (t : Table κ α) (i : Nat) : Option α := t.values[i]?

/-- A table is its entries; that their keys are distinct is not data. -/
theorem ext_entries {t u : Table κ α} (h : t.entries = u.entries) : t = u := by
  cases t; cases u; simp_all

@[simp] theorem entries_empty : (empty : Table κ α).entries = [] := rfl

@[simp] theorem keys_empty : (empty : Table κ α).keys = [] := rfl

@[simp] theorem length_keys (t : Table κ α) : t.keys.length = t.size := by simp [keys, size]

@[simp] theorem length_values (t : Table κ α) : t.values.length = t.size := by
  simp [values, size]

/-! ### Changing the value at a position -/

/-- A change of a value leaves the keys in their places. -/
private theorem map_fst_modify (f : α → α) (es : List (κ × α)) (i : Nat) :
    (es.modify i (fun e => (e.1, f e.2))).map Prod.fst = es.map Prod.fst := by
  induction es generalizing i with
  | nil => cases i <;> simp
  | cons e es ih =>
      cases i with
      | zero => simp
      | succ i => simp [ih]

/-- The value at position `i` replaced by its image under `f`. A position beyond the last
entry holds no value, and nothing changes. -/
def modifyAt (t : Table κ α) (i : Nat) (f : α → α) : Table κ α :=
  ⟨t.entries.modify i (fun e => (e.1, f e.2)), by
    rw [map_fst_modify]; exact t.nodup_keys⟩

@[simp] theorem keys_modifyAt (t : Table κ α) (i : Nat) (f : α → α) :
    (t.modifyAt i f).keys = t.keys := map_fst_modify f t.entries i

@[simp] theorem size_modifyAt (t : Table κ α) (i : Nat) (f : α → α) :
    (t.modifyAt i f).size = t.size := by simp [size, modifyAt]

/-- A change at a place is seen there and nowhere else. -/
theorem at?_modifyAt (t : Table κ α) (i j : Nat) (f : α → α) :
    (t.modifyAt i f).at? j = if i = j then (t.at? j).map f else t.at? j := by
  simp only [at?, values, modifyAt, List.getElem?_map, List.getElem?_modify]
  split <;> cases t.entries[j]? <;> simp

/-! ### Appending -/

/-- A new key with its value, after all entries. -/
def append (t : Table κ α) (k : κ) (a : α) (h : k ∉ t.keys) : Table κ α :=
  ⟨t.entries ++ [(k, a)], by
    rw [List.map_append, List.nodup_append]
    refine ⟨t.nodup_keys, by simp, fun x hx y hy => ?_⟩
    simp only [List.map_cons, List.map_nil, List.mem_singleton] at hy
    subst hy
    exact fun hxy => h (hxy ▸ hx)⟩

/-- A new key stands at the end. -/
theorem keys_append (t : Table κ α) (k : κ) (a : α) (h : k ∉ t.keys) :
    (t.append k a h).keys = t.keys ++ [k] := by simp [keys, append]

/-- The key of an entry is a key. -/
theorem mem_keys_of_mem {t : Table κ α} {k : κ} {a : α} (h : (k, a) ∈ t.entries) :
    k ∈ t.keys := List.mem_map.2 ⟨(k, a), h, rfl⟩

/-! ### Looking up and setting keys -/

variable [DecidableEq κ]

/-- The value under a key. -/
def get? (t : Table κ α) (k : κ) : Option α :=
  (t.entries.find? (fun e => decide (e.1 = k))).map Prod.snd

/-- The position of a key. -/
def indexOf? (t : Table κ α) (k : κ) : Option Nat :=
  t.keys.findIdx? (fun key => decide (key = k))

/-- Whether a key has an entry. -/
def contains (t : Table κ α) (k : κ) : Bool := decide (k ∈ t.keys)

/-- `k` bound to `a`: in place if the key is known, at the end if it is new. -/
def set (t : Table κ α) (k : κ) (a : α) : Table κ α :=
  if h : k ∈ t.keys then
    ⟨t.entries.map (fun e => if e.1 = k then (e.1, a) else e), by
      have : (fun e : κ × α => (if e.1 = k then (e.1, a) else e).1) = Prod.fst := by
        funext e; split <;> rfl
      rw [List.map_map, show Prod.fst ∘ (fun e : κ × α => if e.1 = k then (e.1, a) else e)
        = Prod.fst from this]
      exact t.nodup_keys⟩
  else t.append k a h

/-- `k` bound to the image of its value, or of `initial` if it has none. -/
def update (t : Table κ α) (k : κ) (initial : α) (f : α → α) : Table κ α :=
  t.set k (f ((t.get? k).getD initial))

/-- The pairs set one after another: a repeated key keeps its first place and its last
value. -/
def ofList (es : List (κ × α)) : Table κ α := es.foldl (fun t e => t.set e.1 e.2) empty

/-- Equality up to the order of the entries. -/
def sameEntries [DecidableEq α] (t u : Table κ α) : Bool :=
  t.size == u.size && t.entries.all (fun e => decide (u.get? e.1 = some e.2))

/-- Setting a key that is new puts an entry at the end. -/
theorem entries_set_of_not_mem {t : Table κ α} {k : κ} (a : α) (h : k ∉ t.keys) :
    (t.set k a).entries = t.entries ++ [(k, a)] := by simp [set, h, append]

/-- Setting a key that is there replaces its value in place. -/
theorem entries_set_of_mem {t : Table κ α} {k : κ} (a : α) (h : k ∈ t.keys) :
    (t.set k a).entries = t.entries.map (fun e => if e.1 = k then (e.1, a) else e) := by
  simp [set, h]

/-- Setting keeps the keys in order of first arrival. -/
theorem keys_set (t : Table κ α) (k : κ) (a : α) :
    (t.set k a).keys = if k ∈ t.keys then t.keys else t.keys ++ [k] := by
  split
  · next h =>
      rw [keys, entries_set_of_mem a h, List.map_map]
      exact List.map_congr_left fun e _ => by simp only [Function.comp_apply]; split <;> rfl
  · next h => simp [keys, entries_set_of_not_mem a h]

/-- Among distinct keys, looking for that of an entry finds this entry. -/
private theorem find?_eq_some_of_mem {es : List (κ × α)} (hn : (es.map Prod.fst).Nodup)
    {k : κ} {a : α} (h : (k, a) ∈ es) :
    es.find? (fun e => decide (e.1 = k)) = some (k, a) := by
  induction es with
  | nil => simp at h
  | cons e es ih =>
      rw [List.map_cons, List.nodup_cons] at hn
      rcases List.mem_cons.1 h with rfl | h
      · simp
      · have hne : e.1 ≠ k := fun he =>
          hn.1 (List.mem_map.2 ⟨(k, a), h, he.symm⟩)
        simp [hne, ih hn.2 h]

/-- Looking up a key finds exactly the entry that is in the table. -/
theorem get?_eq_some_iff {t : Table κ α} {k : κ} {a : α} :
    t.get? k = some a ↔ (k, a) ∈ t.entries := by
  constructor
  · intro h
    obtain ⟨e, he, rfl⟩ := Option.map_eq_some_iff.1 h
    have hk := List.find?_some he
    have hm := List.mem_of_find?_eq_some he
    simp only [decide_eq_true_eq] at hk
    subst hk
    exact hm
  · intro h
    simp [get?, find?_eq_some_of_mem t.nodup_keys h]

/-- A key without a value is not there. -/
theorem get?_eq_none_iff {t : Table κ α} {k : κ} : t.get? k = none ↔ k ∉ t.keys := by
  rw [get?, Option.map_eq_none_iff, List.find?_eq_none, keys, List.mem_map]
  constructor
  · rintro h ⟨e, he, rfl⟩
    exact h e he (by simp)
  · intro h e he hk
    exact h ⟨e, he, by simpa using hk⟩

@[simp] theorem get?_empty (k : κ) : (empty : Table κ α).get? k = none := rfl

/-- A key that has been set reads back. -/
@[simp] theorem get?_set_self (t : Table κ α) (k : κ) (a : α) : (t.set k a).get? k = some a := by
  rw [get?_eq_some_iff]
  by_cases h : k ∈ t.keys
  · obtain ⟨e, he, rfl⟩ := List.mem_map.1 h
    rw [entries_set_of_mem a h]
    exact List.mem_map.2 ⟨e, he, by simp⟩
  · simp [entries_set_of_not_mem a h]

/-- Setting one key leaves what is under the others. -/
theorem get?_set_of_ne (t : Table κ α) {k l : κ} (a : α) (h : l ≠ k) :
    (t.set k a).get? l = t.get? l := by
  apply Option.ext
  intro b
  rw [get?_eq_some_iff, get?_eq_some_iff]
  by_cases hk : k ∈ t.keys
  · rw [entries_set_of_mem a hk, List.mem_map]
    constructor
    · rintro ⟨e, he, heq⟩
      split at heq
      · next hek => exact absurd (by rw [← (Prod.mk.inj heq).1, hek]) h
      · exact heq ▸ he
    · intro hb
      exact ⟨(l, b), hb, by simp [h]⟩
  · simp [entries_set_of_not_mem a hk, h]

/-- Setting new keys one after another appends the pairs. -/
theorem entries_foldl_set (es : List (κ × α)) (t : Table κ α)
    (h : (t.keys ++ es.map Prod.fst).Nodup) :
    (es.foldl (fun t e => t.set e.1 e.2) t).entries = t.entries ++ es := by
  induction es generalizing t with
  | nil => simp
  | cons e es ih =>
      have hnew : e.1 ∉ t.keys := fun he =>
        (List.nodup_append.1 h).2.2 e.1 he e.1 (by simp) rfl
      have hkeys : (t.set e.1 e.2).keys = t.keys ++ [e.1] := by rw [keys_set, if_neg hnew]
      rw [List.foldl_cons, ih _ (by simpa [hkeys] using h), entries_set_of_not_mem e.2 hnew]
      simp

/-- A table is what its own entries make. -/
theorem ofList_entries (t : Table κ α) : ofList t.entries = t :=
  ext_entries (entries_foldl_set t.entries empty (by simpa using t.nodup_keys))

/-- Appending a new key binds it and leaves the others. -/
theorem get?_append (t : Table κ α) (k l : κ) (a : α) (h : k ∉ t.keys) :
    (t.append k a h).get? l = if l = k then some a else t.get? l := by
  have hset : t.append k a h = t.set k a := by rw [set, dif_neg h]
  rw [hset]
  split
  · next hl => rw [hl, get?_set_self]
  · next hl => exact get?_set_of_ne t a hl

/-! ### Positions -/

/-- The position of a key is the one place at which it stands. -/
theorem indexOf?_eq_some_iff {t : Table κ α} {k : κ} {i : Nat} :
    t.indexOf? k = some i ↔ t.keys[i]? = some k := by
  rw [indexOf?, List.findIdx?_eq_some_iff_getElem]
  constructor
  · rintro ⟨hi, hk, -⟩
    rw [List.getElem?_eq_getElem hi]
    simpa using hk
  · intro hk
    obtain ⟨hi, rfl⟩ := List.getElem?_eq_some_iff.1 hk
    refine ⟨hi, by simp, fun j hj => ?_⟩
    have hne : t.keys[j] ≠ t.keys[i] := fun he =>
      Nat.ne_of_lt hj ((List.getElem_inj t.nodup_keys).1 he)
    simpa using hne

/-- A key without a place is not there. -/
theorem indexOf?_eq_none_iff {t : Table κ α} {k : κ} : t.indexOf? k = none ↔ k ∉ t.keys := by
  rw [indexOf?, List.findIdx?_eq_none_iff]
  constructor
  · intro h hk
    simpa using h k hk
  · intro h x hx
    simpa using fun he : x = k => h (he ▸ hx)

/-- The value at the position of a key is the value under the key. -/
theorem at?_of_indexOf? {t : Table κ α} {k : κ} {i : Nat} (h : t.indexOf? k = some i) :
    t.at? i = t.get? k := by
  have hkey := indexOf?_eq_some_iff.1 h
  rw [keys, List.getElem?_map] at hkey
  obtain ⟨⟨l, a⟩, he, hl⟩ := Option.map_eq_some_iff.1 hkey
  obtain rfl : l = k := hl
  rw [at?, values, List.getElem?_map, he, get?_eq_some_iff.2 (List.mem_of_getElem? he)]
  rfl

/-- A new key takes the position after all others; the known keys keep theirs. -/
theorem indexOf?_append (t : Table κ α) (k l : κ) (a : α) (h : k ∉ t.keys) :
    (t.append k a h).indexOf? l = if l = k then some t.size else t.indexOf? l := by
  split
  · next hl =>
      subst hl
      rw [indexOf?_eq_some_iff, keys_append, ← length_keys]
      simp
  · next hl =>
      apply Option.ext
      intro i
      -- Another key is found behind the old ones only if it is the new one.
      rw [indexOf?_eq_some_iff, indexOf?_eq_some_iff, keys_append, List.getElem?_append]
      split
      · rfl
      · next hi =>
          rw [List.getElem?_eq_none (Nat.le_of_not_lt hi)]
          cases hj : i - t.keys.length with
          | zero => simpa using fun he : k = l => hl he.symm
          | succ j => simp

end Table

end FlowGraph
