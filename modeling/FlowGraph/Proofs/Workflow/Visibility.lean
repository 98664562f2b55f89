import FlowGraph.Proofs.Workflow.Links

/-!
# `FlowGraph.Proofs.Workflow.Visibility`: what can be seen from an activity stays the same

A handle is a bare position in a table that goes on growing, and an activity sees what comes before
its own position. Neither is disturbed by anything that happens later, because a table of activities
grows at its end only: the keys that it has had are the first of those that it has now.

* `Compilation.keys_prefix_after`: this is so after any run of changes, also of those that fail.
* `Workflow.resolveDependency_of_isPrefix`: and so a dependency resolves as it did before. One that
  was unknown may have come since, but then it has come too late.
* `Compilation.keepsVisible_after`: what this means for handles, keys and look-ups.
-/

set_option autoImplicit false

namespace FlowGraph

namespace Workflow

/-! ### Keys that have come behind -/

section Prefix

variable {w w' : Workflow} {cur id : ActivityId} {t : String}

/-- A workflow whose keys go on has not become smaller. -/
theorem size_le_of_isPrefix (h : w.activities.keys <+: w'.activities.keys) : w.size ≤ w'.size := by
  have hlength := h.length_le
  rwa [Table.length_keys, Table.length_keys] at hlength

/-- Every place of a workflow has a key. -/
theorem exists_key (hid : id.index < w.size) :
    ∃ key, w.activities.keys[id.index]? = some key :=
  ⟨_, List.getElem?_eq_getElem (by rwa [Table.length_keys])⟩

/-- A position keeps its key. -/
theorem key_of_isPrefix (h : w.activities.keys <+: w'.activities.keys) {i : Nat}
    (hkey : w.activities.keys[i]? = some t) : w'.activities.keys[i]? = some t := by
  obtain ⟨hlt, -⟩ := List.getElem?_eq_some_iff.1 hkey
  obtain ⟨more, hmore⟩ := h
  rw [← hmore, List.getElem?_append_left hlt, hkey]

/-- A key keeps its position. -/
theorem idOf?_of_isPrefix (h : w.activities.keys <+: w'.activities.keys)
    (hid : w.idOf? t = some id) : w'.idOf? t = some id :=
  idOf?_eq_some_iff.2 (key_of_isPrefix h (idOf?_eq_some_iff.1 hid))

/-- A key that was not there has got a position behind all that were. -/
theorem size_le_of_new_key (h : w.activities.keys <+: w'.activities.keys) (hnew : w.idOf? t = none)
    (hid : w'.idOf? t = some id) : w.size ≤ id.index := by
  refine Nat.le_of_not_lt (fun hlt => ?_)
  obtain ⟨key, hold⟩ := exists_key hlt
  -- The position would have had this key all along.
  have hkey := idOf?_eq_some_iff.1 hid
  rw [key_of_isPrefix h hold] at hkey
  rw [idOf?_eq_some_iff.2 (hold.trans hkey)] at hnew
  cases hnew

/-- From an activity that was there, a dependency that was found or was too late still is. An
unknown one has come too late if it has come at all. -/
theorem resolveDependency_of_isPrefix (h : w.activities.keys <+: w'.activities.keys)
    (hcur : cur.index < w.size) (t : String) :
    w'.resolveDependency cur t =
      match w.resolveDependency cur t with
      | .ok id => .ok id
      | .error .notYetCompiled => .error .notYetCompiled
      | .error .unknown =>
          if t ∈ w'.activities.keys then .error .notYetCompiled else .error .unknown := by
  rw [resolveDependency, resolveDependency]
  cases hid : w.idOf? t with
  | some id =>
      rw [idOf?_of_isPrefix h hid]
      by_cases hlt : id.index < cur.index
      · simp only [if_pos hlt]
      · simp only [if_neg hlt]
  | none =>
      -- The tag was unknown. It may have come behind, and then behind `cur` as well.
      cases hid' : w'.idOf? t with
      | none =>
          have hno : t ∉ w'.activities.keys := Table.get?_eq_none_iff.1 (get?_of_idOf?_eq_none hid')
          simp only [if_neg hno]
      | some id =>
          have hmem : t ∈ w'.activities.keys := List.mem_of_getElem? (idOf?_eq_some_iff.1 hid')
          have hlate : ¬ id.index < cur.index :=
            Nat.not_lt.2 (Nat.le_of_lt (Nat.lt_of_lt_of_le hcur (size_le_of_new_key h hid hid')))
          simp only [if_neg hlate, if_pos hmem]

end Prefix

/-- What the handles of `w`, and the look-ups from its activity `cur`, are worth in a workflow `w'`
that it has become. -/
structure KeepsVisible (w w' : Workflow) (cur : ActivityId) : Prop where
  /-- A handle leads to the same key. -/
  key : ∀ id : ActivityId, id.index < w.size →
    ∃ key, w.activities.keys[id.index]? = some key ∧ w'.activities.keys[id.index]? = some key
  nodup : w'.activities.keys.Nodup
  /-- The handle of a key is its position. -/
  position : ∀ (i : Nat) key, w'.activities.keys[i]? = some key → w'.idOf? key = some ⟨i⟩
  /-- The handles of new keys are larger. -/
  new : ∀ key id, w.idOf? key = none → w'.idOf? key = some id → cur.index < id.index
  found : ∀ t id, w.resolveDependency cur t = .ok id → w'.resolveDependency cur t = .ok id
  late : ∀ t, w.resolveDependency cur t = .error .notYetCompiled →
    w'.resolveDependency cur t = .error .notYetCompiled
  /-- What was unknown is never found. -/
  unknown : ∀ t, w.resolveDependency cur t = .error .unknown →
    w'.resolveDependency cur t = .error .unknown ∨
      w'.resolveDependency cur t = .error .notYetCompiled
  link : ∀ t, (w'.linkDependency cur t).1 = (w.linkDependency cur t).1

/-- What is visible from an activity stays so as long as the keys only go on. -/
theorem keepsVisible_of_isPrefix {w w' : Workflow} {cur : ActivityId}
    (h : w.activities.keys <+: w'.activities.keys) (hcur : cur.index < w.size) :
    KeepsVisible w w' cur where
  key := by
    intro id hid
    obtain ⟨key, hkey⟩ := exists_key hid
    exact ⟨key, hkey, key_of_isPrefix h hkey⟩
  nodup := w'.activities.nodup_keys
  position := fun i key hkey => idOf?_eq_some_iff.2 hkey
  new := fun key id hnew hid => Nat.lt_of_lt_of_le hcur (size_le_of_new_key h hnew hid)
  found := by
    intro t id hok
    rw [resolveDependency_of_isPrefix h hcur, hok]
  late := by
    intro t hlate
    rw [resolveDependency_of_isPrefix h hcur, hlate]
  unknown := by
    intro t hunknown
    rw [resolveDependency_of_isPrefix h hcur, hunknown]
    by_cases hmem : t ∈ w'.activities.keys
    · exact Or.inr (if_pos hmem)
    · exact Or.inl (if_neg hmem)
  link := by
    intro t
    rw [linkDependency_fst, linkDependency_fst, resolveDependency_of_isPrefix h hcur]
    -- Too late and unknown come to the same: there is no link.
    split
    · next hok => rw [hok]
    · next hlate => rw [hlate]
    · next hunknown =>
        rw [hunknown]
        split
        · rfl
        · rfl

end Workflow

/-! ### Runs of changes -/

/-- What can happen to a workflow after one of its activities has got its handle. -/
inductive Change where
  | insert (a : Activity)
  | compile (d : Element)
  /-- An activity is changed in place, in any way. -/
  | update (id : ActivityId) (f : Activity → Activity)

namespace Compilation

/-- What a change answers, with the handle that it gives out, and what it leaves. -/
def change (c : Compilation) : Change → Except CompileError (Option ActivityId) × Compilation
  | .insert a =>
      match c.workflow.insert a with
      | .ok (id, w) => (.ok (some id), { c with workflow := w })
      | .error err => (.error err, c)
  | .compile d =>
      let (result, c') := (compileActivity d).run c
      (result.map some, c')
  | .update id f => (.ok none, { c with workflow := c.workflow.update id f })

/-- What a run of changes leaves, whether they succeed or fail. -/
def after (c : Compilation) (changes : List Change) : Compilation :=
  changes.foldl (fun c change => (c.change change).2) c

/-- One more change at the end of a run. -/
theorem after_concat (c : Compilation) (changes : List Change) (change : Change) :
    c.after (changes ++ [change]) = ((c.after changes).change change).2 := List.foldl_append

/-- No change takes a key from its position. -/
theorem keys_prefix_change (c : Compilation) (change : Change) :
    c.workflow.activities.keys <+: (c.change change).2.workflow.activities.keys := by
  cases change with
  | insert a =>
      rw [Compilation.change]
      split
      · next h =>
          rw [(Workflow.insert_eq_ok_iff.1 h).2.keys]
          exact List.prefix_append _ _
      · exact List.prefix_rfl
  | compile d =>
      -- Also a declaration that fails may have left its entry.
      rcases compileActivity_unchanged_or_extends d c with ⟨err, hrun⟩ | ⟨a, hext⟩
      · refine ⟨[], ?_⟩
        rw [List.append_nil, Compilation.change, hrun]
      · exact hext.keys ▸ List.prefix_append _ _
  | update id f =>
      refine ⟨[], ?_⟩
      rw [List.append_nil, Compilation.change, Workflow.keys_update]

/-- A run of changes only adds to the keys, also where some of them fail. -/
theorem keys_prefix_after (c : Compilation) (changes : List Change) :
    c.workflow.activities.keys <+: (c.after changes).workflow.activities.keys := by
  induction changes using List.reverseRecOn with
  | nil => exact List.prefix_rfl
  | append_singleton changes change ih =>
      rw [after_concat]
      exact ih.trans ((c.after changes).keys_prefix_change change)

/-- The handle that a change gives out is the position behind all others. -/
theorem index_of_change {c : Compilation} {change : Change} {id : ActivityId}
    (h : (c.change change).1 = .ok (some id)) : id = ⟨c.workflow.size⟩ := by
  cases change with
  | insert a =>
      rw [Compilation.change] at h
      split at h
      · next hinsert =>
          cases h
          exact (Workflow.insert_eq_ok_iff.1 hinsert).1
      · cases h
  | compile d =>
      rw [Compilation.change] at h
      -- A declaration gives its handle only where it compiles.
      rcases hrun : (compileActivity d).run c with ⟨result, c'⟩
      rw [hrun] at h
      cases result with
      | error err => cases h
      | ok id' =>
          cases h
          exact (extends_of_run_compileActivity hrun).2.1
  | update id' f => cases h

/-- Whatever is inserted, compiled and changed in place, successfully or not: the handles of before
hold, those that are given out later are larger, and from an activity of before the same is seen. -/
theorem keepsVisible_after (c : Compilation) {cur : ActivityId} (hcur : cur.index < c.workflow.size)
    (changes : List Change) :
    c.workflow.KeepsVisible (c.after changes).workflow cur ∧
      ∀ before change more id, changes = before ++ change :: more →
        ((c.after before).change change).1 = .ok (some id) → cur.index < id.index := by
  refine ⟨Workflow.keepsVisible_of_isPrefix (c.keys_prefix_after changes) hcur, ?_⟩
  rintro before change more id - hgiven
  rw [index_of_change hgiven]
  exact Nat.lt_of_lt_of_le hcur (Workflow.size_le_of_isPrefix (c.keys_prefix_after before))

/-- The first of two activities gets another tag. Its key is refused to another activity, a
declaration fails and leaves its entry, and one more activity is inserted. -/
def growing : List Change := [
  .update ⟨0⟩ (fun a => { a with tag := "z" }),
  .insert (.bare "a" .load),
  .compile halfReduced,
  .insert (.bare "z" .map)]

/-- The first activity is found under its old key. The entry of the failed declaration has come
too late for the second activity, for which it was unknown before. -/
theorem keepsVisible_after_growing :
    twoActivities.KeepsVisible (after ⟨twoActivities, []⟩ growing).workflow ⟨1⟩ ∧
    (after ⟨twoActivities, []⟩ growing).workflow.activities.keys = ["a", "b", "r", "z"] ∧
    (after ⟨twoActivities, []⟩ growing).workflow.resolveDependency ⟨1⟩ "a" = .ok ⟨0⟩ ∧
    twoActivities.resolveDependency ⟨1⟩ "r" = .error .unknown ∧
    (after ⟨twoActivities, []⟩ growing).workflow.resolveDependency ⟨1⟩ "r"
      = .error .notYetCompiled := by
  have hsecond : (⟨1⟩ : ActivityId).index < twoActivities.size := by decide
  obtain ⟨hkeeps, -⟩ := keepsVisible_after ⟨twoActivities, []⟩ hsecond growing
  have hfirst : twoActivities.resolveDependency ⟨1⟩ "a" = .ok ⟨0⟩ := by decide +kernel
  exact ⟨hkeeps, by decide +kernel, hkeeps.found "a" ⟨0⟩ hfirst, by decide +kernel,
    by decide +kernel⟩

end Compilation

end FlowGraph
