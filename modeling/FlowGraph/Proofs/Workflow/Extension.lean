import FlowGraph.Workflow.Dependency

/-!
# `FlowGraph.Proofs.Workflow.Extension`: a workflow with one more entry

Workflows grow at their end, one entry at a time, and while an entry is the last one its
activity is changed in place. `Workflow.Extends w w' key a` says that `w'` is `w` with the
entry `(key, a)` behind all others. What `w'` answers is then known from `w`:

* `Extends.get?_eq`, `Extends.idOf?_eq`: only the new key is looked up differently.
* `Extends.resolveDependency_eq`: from the new activity, all others can be seen.
* `Extends.activity?_last`, `Extends.activity?_of_lt`: the new position holds `a`, the
  others hold what they held.
* `Extends.update`: an update of the last position changes `a` and nothing else.
* `insert_eq_ok_iff`: an insertion succeeds exactly when it extends by a new key.
-/

set_option autoImplicit false

namespace FlowGraph

namespace Workflow

/-! ### Keys and positions -/

section LookUp

variable {w : Workflow} {id : ActivityId} {t : String}

/-- The handle of a tag is the place of this tag among the keys. -/
theorem idOf?_eq_some_iff : w.idOf? t = some id ↔ w.activities.keys[id.index]? = some t := by
  rw [← Table.indexOf?_eq_some_iff, idOf?, Option.map_eq_some_iff]
  constructor
  · rintro ⟨i, hi, rfl⟩
    exact hi
  · intro h
    exact ⟨id.index, h, rfl⟩

/-- A tag and its handle lead to one activity. -/
theorem activity?_of_idOf? (h : w.idOf? t = some id) : w.activity? id = w.get? t := by
  obtain ⟨i, hi, rfl⟩ := Option.map_eq_some_iff.1 h
  exact Table.at?_of_indexOf? hi

/-- What a key leads to is there. -/
theorem exists_of_idOf? (h : w.idOf? t = some id) : ∃ a, w.get? t = some a := by
  have hmem : t ∈ w.activities.keys := List.mem_of_getElem? (idOf?_eq_some_iff.1 h)
  cases ha : w.get? t with
  | none => exact absurd hmem (Table.get?_eq_none_iff.1 ha)
  | some a => exact ⟨a, rfl⟩

/-- A tag without a handle leads to no activity. -/
theorem get?_of_idOf?_eq_none (h : w.idOf? t = none) : w.get? t = none :=
  Table.get?_eq_none_iff.2 (Table.indexOf?_eq_none_iff.1 (Option.map_eq_none_iff.1 h))

/-- A handle that leads to an activity is a place of the workflow. -/
theorem lt_size_of_activity? {a : Activity} (h : w.activity? id = some a) : id.index < w.size := by
  obtain ⟨hlt, -⟩ := List.getElem?_eq_some_iff.1 h
  rwa [Table.length_values] at hlt

/-- So is the handle of a tag. -/
theorem lt_size_of_idOf? (h : w.idOf? t = some id) : id.index < w.size := by
  obtain ⟨a, ha⟩ := exists_of_idOf? h
  exact lt_size_of_activity? ((activity?_of_idOf? h).trans ha)

/-- A change in place moves no key. -/
theorem idOf?_update (id : ActivityId) (f : Activity → Activity) :
    (w.update id f).idOf? t = w.idOf? t := by
  rw [idOf?, Table.indexOf?, keys_update]
  rfl

/-- Two changes of one activity are one. -/
theorem update_update (w : Workflow) (id : ActivityId) (f g : Activity → Activity) :
    (w.update id f).update id g = w.update id (g ∘ f) := by
  simp only [update, Table.modifyAt, List.modify_modify_eq]
  rfl

/-- Nothing changes where an activity is put in its own place. -/
theorem update_eq_self {a : Activity} {f : Activity → Activity} (h : w.activity? id = some a)
    (hf : f a = a) : w.update id f = w := by
  refine congrArg (Workflow.mk w.tag w.description) (Table.ext_entries (List.ext_getElem? ?_))
  intro i
  show (w.activities.entries.modify id.index _)[i]? = _
  rw [List.getElem?_modify]
  split
  · next hi =>
      subst hi
      rw [activity?, Table.at?, Table.values, List.getElem?_map] at h
      obtain ⟨e, he, rfl⟩ := Option.map_eq_some_iff.1 h
      rw [he, Option.map_eq_map, Option.map_some, hf]
  · exact Option.map_id'

/-- What a dependency is linked to is what it resolves to. -/
theorem linkDependency_fst (w : Workflow) (current : ActivityId) (t : String) :
    (w.linkDependency current t).1 = (w.resolveDependency current t).toOption := by
  rw [linkDependency]
  split
  · next h => rw [h]; rfl
  · next h => rw [h]; rfl
  · next h => rw [h]; rfl

end LookUp

/-! ### One more entry -/

/-- `w'` is `w` with the activity `a` appended under `key`. -/
structure Extends (w w' : Workflow) (key : String) (a : Activity) : Prop where
  tag : w'.tag = w.tag
  description : w'.description = w.description
  entries : w'.activities.entries = w.activities.entries ++ [(key, a)]

/-- A workflow can be extended under any key that it does not have. -/
theorem exists_extends {w : Workflow} {key : String} (a : Activity)
    (h : key ∉ w.activities.keys) : ∃ w', Extends w w' key a :=
  ⟨{ w with activities := w.activities.append key a h }, rfl, rfl, rfl⟩

/-- A workflow is its tag, its description and its entries. -/
theorem ext_entries {v w : Workflow} (htag : v.tag = w.tag)
    (hdescription : v.description = w.description)
    (hentries : v.activities.entries = w.activities.entries) : v = w := by
  cases v
  cases w
  simp only at htag hdescription hentries
  rw [htag, hdescription, Table.ext_entries hentries]

namespace Extends

variable {w w' : Workflow} {key : String} {a : Activity}

/-- The new key stands last. -/
theorem keys (h : Extends w w' key a) : w'.activities.keys = w.activities.keys ++ [key] := by
  rw [Table.keys, h.entries, List.map_append]
  rfl

/-- The new activity stands last. -/
theorem values (h : Extends w w' key a) :
    w'.activities.values = w.activities.values ++ [a] := by
  rw [Table.values, h.entries, List.map_append]
  rfl

/-- There is one activity more. -/
theorem size_eq (h : Extends w w' key a) : w'.size = w.size + 1 := by
  simp [size, Table.size, h.entries]

/-- The new key is new, because no table holds a key twice. -/
theorem not_mem_keys (h : Extends w w' key a) : key ∉ w.activities.keys := by
  have hnodup := w'.activities.nodup_keys
  rw [← Table.keys, h.keys, List.nodup_append] at hnodup
  exact fun hk => hnodup.2.2 key hk key (by simp) rfl

/-- The table of activities is extended by the new entry. -/
theorem activities_eq (h : Extends w w' key a) :
    w'.activities = w.activities.append key a h.not_mem_keys := Table.ext_entries h.entries

/-- What extends `w` by an entry is determined by the entry. -/
theorem unique {w'' : Workflow} (h : Extends w w' key a) (h' : Extends w w'' key a) :
    w' = w'' :=
  ext_entries (h.tag.trans h'.tag.symm) (h.description.trans h'.description.symm)
    (h.entries.trans h'.entries.symm)

/-- The new activity has the first place that was free. -/
theorem activity?_last (h : Extends w w' key a) : w'.activity? ⟨w.size⟩ = some a := by
  rw [activity?, Table.at?, h.values, size, ← Table.length_values]
  simp

/-- The entry by which `w'` extends `w` is determined by them. -/
theorem activity_unique {key' : String} {b : Activity} (h : Extends w w' key a)
    (h' : Extends w w' key' b) : a = b :=
  Option.some.inj (h.activity?_last.symm.trans h'.activity?_last)

/-- The activities that were there keep their places. -/
theorem activity?_of_lt (h : Extends w w' key a) {id : ActivityId} (hid : id.index < w.size) :
    w'.activity? id = w.activity? id := by
  rw [size, ← Table.length_values] at hid
  rw [activity?, activity?, Table.at?, Table.at?, h.values, List.getElem?_append_left hid]

/-- The new activity is named by its own tag. -/
theorem tagOf_last (h : Extends w w' key a) : w'.tagOf ⟨w.size⟩ = a.tag := by
  rw [tagOf, h.activity?_last]

/-- Looking up a key finds the new entry under the new key and the old ones under theirs. -/
theorem get?_eq (h : Extends w w' key a) (k : String) :
    w'.get? k = if k = key then some a else w.get? k := by
  rw [get?, h.activities_eq, Table.get?_append]
  rfl

/-- The new key has the new position, and the others keep theirs. -/
theorem idOf?_eq (h : Extends w w' key a) (k : String) :
    w'.idOf? k = if k = key then some ⟨w.size⟩ else w.idOf? k := by
  rw [idOf?, h.activities_eq, Table.indexOf?_append]
  split <;> rfl

/-- From the last activity, all others can be seen and nothing else. -/
theorem resolveDependency_eq (h : Extends w w' key a) (t : String) :
    w'.resolveDependency ⟨w.size⟩ t =
      if t = key then .error .notYetCompiled
      else match w.idOf? t with
        | some id => .ok id
        | none => .error .unknown := by
  rw [resolveDependency, h.idOf?_eq]
  by_cases ht : t = key
  · simp [ht]
  · rw [if_neg ht, if_neg ht]
    cases hid : w.idOf? t with
    | none => rfl
    | some id => simp [lt_size_of_idOf? hid]

/-- Updating the last position changes the activity there, under the same key. -/
theorem update (h : Extends w w' key a) (f : Activity → Activity) :
    Extends w (w'.update ⟨w.size⟩ f) key (f a) where
  tag := h.tag
  description := h.description
  entries := by
    show w'.activities.entries.modify w.activities.entries.length _ = _
    -- The entry to be changed is the one behind all those of `w`.
    rw [h.entries, List.modify_eq_take_drop]
    simp

end Extends

/-- An insertion succeeds exactly when it extends the workflow by the activity under its tag,
and then answers the new position. -/
theorem insert_eq_ok_iff {w w' : Workflow} {a : Activity} {id : ActivityId} :
    w.insert a = .ok (id, w') ↔ id = ⟨w.size⟩ ∧ Extends w w' a.tag a := by
  unfold insert
  split
  · next h => simpa using fun _ hext => Extends.not_mem_keys hext h
  · next h =>
      have hext : Extends w { w with activities := w.activities.append a.tag a h } a.tag a :=
        ⟨rfl, rfl, rfl⟩
      simp only [Except.ok.injEq, Prod.mk.injEq]
      constructor
      · rintro ⟨rfl, rfl⟩
        exact ⟨rfl, hext⟩
      · rintro ⟨rfl, hext'⟩
        exact ⟨rfl, hext.unique hext'⟩

/-- An insertion is refused exactly when the tag is a key already. -/
theorem insert_eq_error_iff {w : Workflow} {a : Activity} {e : CompileError} :
    w.insert a = .error e ↔ a.tag ∈ w.activities.keys ∧ e = .duplicateActivity a.tag := by
  unfold insert
  split
  · next h => simp [h, eq_comm]
  · next h => simp [h]

end Workflow

end FlowGraph
