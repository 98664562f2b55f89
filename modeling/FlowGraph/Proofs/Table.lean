import Mathlib.Data.List.Induction
import Mathlib.Data.List.Nodup
import Mathlib.Data.Prod.Basic
import FlowGraph.Table

/-!
# `FlowGraph.Proofs.Table`: tables of pairs whose keys repeat

Pairs that are set one after another make a table in which a repeated key keeps its first place
and its last value. `keys_ofList` is the one half of this and `get?_ofList` the other.
`entries_ofList_eq_iff` says when the table is the list of pairs, that is, when nothing is lost.
A key can also be taken out (`erase`), which leaves what is under the others.
-/

set_option autoImplicit false

namespace FlowGraph.Table

variable {κ α : Type}

/-- No entry occurs twice. -/
theorem nodup_entries (t : Table κ α) : t.entries.Nodup := t.nodup_keys.of_map _

variable [DecidableEq κ]

/-- A table has the same entries as itself. -/
theorem sameEntries_self [DecidableEq α] (t : Table κ α) : t.sameEntries t = true := by
  rw [sameEntries, Bool.and_eq_true, List.all_eq_true]
  refine ⟨beq_self_eq_true _, ?_⟩
  intro e he
  exact decide_eq_true (get?_eq_some_iff.2 he)

/-- The table without a key. -/
def erase (t : Table κ α) (k : κ) : Table κ α :=
  ⟨t.entries.filter (fun e => decide (e.1 ≠ k)), t.nodup_keys.sublist (List.filter_sublist.map _)⟩

/-- Taking a key out leaves what is under the others. -/
theorem get?_erase (t : Table κ α) (k l : κ) :
    (t.erase k).get? l = if l = k then none else t.get? l := by
  apply Option.ext
  intro a
  rw [get?_eq_some_iff]
  show (l, a) ∈ t.entries.filter _ ↔ _
  rw [List.mem_filter, decide_eq_true_eq]
  split
  · next h => simp [h]
  · next h => simp [h, get?_eq_some_iff]

/-- A table is told from the order of its keys and from what is under each. -/
theorem eq_of_get?_eq {t u : Table κ α} (hkeys : t.keys = u.keys)
    (h : ∀ k, t.get? k = u.get? k) : t = u := by
  have hentries (t : Table κ α) :
      t.entries.map (Prod.map id some) = t.keys.map (fun k => (k, t.get? k)) := by
    rw [keys, List.map_map]
    exact List.map_congr_left fun e he => by simp [get?_eq_some_iff.2 he, Prod.map]
  have hpairs : t.entries.map (Prod.map id some) = u.entries.map (Prod.map id some) := by
    simp only [hentries, hkeys, h]
  exact ext_entries (List.map_injective_iff.2
    (Function.injective_id.prodMap fun _ _ => Option.some.inj) hpairs)

/-- The last pair is set last. -/
theorem ofList_concat (es : List (κ × α)) (e : κ × α) :
    ofList (es ++ [e]) = (ofList es).set e.1 e.2 := by
  rw [ofList, List.foldl_append]
  rfl

/-- An item behind a list is kept exactly if the list does not have it. -/
theorem eraseDups_concat (ks : List κ) (k : κ) :
    (ks ++ [k]).eraseDups = if k ∈ ks then ks.eraseDups else ks.eraseDups ++ [k] := by
  rw [List.eraseDups_append]
  split
  · next h => simp [List.removeAll, h]
  · next h => simp [List.removeAll, h, List.eraseDups_cons]

/-- The keys are those of the pairs, each at its first place. -/
theorem keys_ofList (es : List (κ × α)) : (ofList es).keys = (es.map Prod.fst).eraseDups := by
  induction es using List.reverseRecOn with
  | nil => rfl
  | append_singleton es e ih =>
      rw [ofList_concat, keys_set, ih, List.map_append, List.map_singleton, eraseDups_concat]
      simp only [List.mem_eraseDups]

/-- The value under a key is that of the last pair with the key. -/
theorem get?_ofList (es : List (κ × α)) (k : κ) :
    (ofList es).get? k = ((es.filter (fun e => decide (e.1 = k))).getLast?).map Prod.snd := by
  induction es using List.reverseRecOn with
  | nil => rfl
  | append_singleton es e ih =>
      rw [ofList_concat, List.filter_append]
      by_cases h : e.1 = k
      · subst h
        simp
      · rw [get?_set_of_ne _ _ (Ne.symm h), ih]
        simp [h]

/-- The table is the list of pairs exactly if no key repeats. -/
theorem entries_ofList_eq_iff {es : List (κ × α)} :
    (ofList es).entries = es ↔ (es.map Prod.fst).Nodup := by
  constructor
  · intro h
    have hnodup := (ofList es).nodup_keys
    rwa [h] at hnodup
  · intro h
    exact entries_foldl_set es empty (by simpa using h)

end FlowGraph.Table
