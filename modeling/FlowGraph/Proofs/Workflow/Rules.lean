import FlowGraph.Proofs.Steps
import FlowGraph.Proofs.Workflow.Extension
import FlowGraph.Workflow.Restore

/-!
# `FlowGraph.Proofs.Workflow.Rules`: the rules of stored workflows

`Activity.KeepsRules` says what is asked of one entry of a stored workflow, given the keys
listed before it, and `RulesFrom` of all entries. Restoring checks exactly this:

* `checkRelations_eq_ok_iff`: the check of one direction, with the names taken so far.
* `restoreEntry_eq_ok_iff`: one entry is accepted exactly when it keeps the rules, and then
  extends the workflow.
* `restore_eq_ok_iff`: a table is accepted exactly when every entry keeps the rules after
  those before it, and the workflow holds the table unchanged.
-/

set_option autoImplicit false

namespace FlowGraph

/-- What is asked of an activity that is stored under `key` behind the keys `earlier`: the key
is its tag, each relation stands in the list of its own direction, no two relations share a
name, and what a relation depends on was listed before. -/
structure Activity.KeepsRules (a : Activity) (key : String) (earlier : List String) : Prop where
  key_eq : key = a.tag
  direction : ∀ d, ∀ r ∈ a.relations d, r.direction = d
  nodup_names : ((a.inputs ++ a.outputs).map Relation.name).Nodup
  dependency : ∀ r ∈ a.inputs ++ a.outputs, ∀ t, r.dependency = some t → t ∈ earlier

/-- Every entry keeps the rules behind the keys `earlier` and those of the entries before
it. -/
def RulesFrom (earlier : List String) (es : List (String × Activity)) : Prop :=
  ∀ (i : Nat) (key : String) (a : Activity), es[i]? = some (key, a) →
    a.KeepsRules key (earlier ++ (es.take i).map Prod.fst)

/-- Every activity of a workflow keeps the rules behind those before it. -/
def Workflow.WellFormed (w : Workflow) : Prop := RulesFrom [] w.activities.entries

/-- No entries break no rules. -/
theorem rulesFrom_nil (earlier : List String) : RulesFrom earlier [] := by simp [RulesFrom]

/-- The first entry comes behind `earlier`, the others behind its key as well. -/
theorem rulesFrom_cons {earlier : List String} {key : String} {a : Activity}
    {es : List (String × Activity)} :
    RulesFrom earlier ((key, a) :: es)
      ↔ a.KeepsRules key earlier ∧ RulesFrom (earlier ++ [key]) es := by
  constructor
  · intro h
    refine ⟨by simpa using h 0 key a rfl, fun i k b hb => ?_⟩
    simpa using h (i + 1) k b hb
  · rintro ⟨ha, hes⟩ i k b hb
    cases i with
    | zero =>
        cases hb
        simpa using ha
    | succ i => simpa using hes i k b hb

/-! ### Checking one activity -/

/-- What is asked of one relation in the list of a direction, given the names that are taken
and the tags that are known. -/
structure Relation.Fits (r : Relation) (known : String → Bool) (d : Direction)
    (names : List String) : Prop where
  direction : r.direction = d
  name : r.name ∉ names
  dependency : ∀ t, r.dependency = some t → known t = true

/-- A relation that fits takes its name, and the check goes on. -/
theorem checkRelations_cons_of_fits {a : Activity} {known : String → Bool} {d : Direction}
    {r : Relation} {names : List String} (h : r.Fits known d names) (rs : List Relation) :
    a.checkRelations known d names (r :: rs)
      = a.checkRelations known d (r.name :: names) rs := by
  rw [Activity.checkRelations, if_neg (by simp [h.direction]), if_neg h.name]
  cases ht : r.dependency with
  | none => rfl
  | some t => simp [h.dependency t ht]

/-- A relation that does not fit ends the check. -/
theorem checkRelations_cons_of_not_fits {a : Activity} {known : String → Bool} {d : Direction}
    {r : Relation} {names : List String} (h : ¬ r.Fits known d names) (rs : List Relation) :
    ∃ e, a.checkRelations known d names (r :: rs) = .error e := by
  rw [Activity.checkRelations]
  split
  · exact ⟨_, rfl⟩
  · next hd =>
      split
      · exact ⟨_, rfl⟩
      · next hn =>
          split
          · next t ht =>
              split
              · next hk =>
                  refine absurd ⟨Classical.not_not.1 hd, hn, fun t' ht' => ?_⟩ h
                  rw [ht] at ht'
                  cases ht'
                  exact hk
              · exact ⟨_, rfl⟩
          · next ht =>
              refine absurd ⟨Classical.not_not.1 hd, hn, fun t' ht' => ?_⟩ h
              rw [ht] at ht'
              cases ht'

/-- The relations of one direction pass exactly when each fits behind those before it. Their
names are taken then. -/
theorem checkRelations_eq_ok_iff {a : Activity} {known : String → Bool} {d : Direction}
    {rs : List Relation} {names names' : List String} :
    a.checkRelations known d names rs = .ok names' ↔
      (∀ r ∈ rs, r.Fits known d names) ∧ (rs.map Relation.name).Nodup ∧
        names' = (rs.map Relation.name).reverse ++ names := by
  induction rs generalizing names with
  | nil =>
      rw [Activity.checkRelations]
      simp [eq_comm]
  | cons r rs ih =>
      by_cases hr : r.Fits known d names
      · rw [checkRelations_cons_of_fits hr, ih]
        -- One name more is taken for the others, which is that none of them has it.
        have hfits : (∀ s ∈ rs, s.Fits known d (r.name :: names)) ↔
            (∀ s ∈ rs, s.Fits known d names) ∧ r.name ∉ rs.map Relation.name := by
          constructor
          · intro h
            refine ⟨fun s hs => ⟨(h s hs).direction, fun hn => (h s hs).name (by simp [hn]),
              (h s hs).dependency⟩, fun hmem => ?_⟩
            obtain ⟨s, hs, hname⟩ := List.mem_map.1 hmem
            exact (h s hs).name (by simp [hname])
          · rintro ⟨h, hnew⟩ s hs
            refine ⟨(h s hs).direction, fun hn => ?_, (h s hs).dependency⟩
            rcases List.mem_cons.1 hn with hn | hn
            · exact hnew (hn ▸ List.mem_map_of_mem hs)
            · exact (h s hs).name hn
        rw [hfits, List.map_cons, List.nodup_cons, List.reverse_cons, List.append_assoc,
          List.forall_mem_cons]
        simp [hr, and_assoc]
      · obtain ⟨e, he⟩ := checkRelations_cons_of_not_fits (a := a) hr rs
        simp [he, hr]

/-- What a workflow knows by a key is what it has a key for. -/
theorem Workflow.isSome_get?_iff {w : Workflow} {t : String} :
    (w.get? t).isSome = true ↔ t ∈ w.activities.keys := by
  rw [Option.isSome_iff_ne_none, Workflow.get?, ne_eq, Table.get?_eq_none_iff,
    Classical.not_not]

/-- Both directions of an activity pass one after the other exactly when it keeps the rules
that concern its relations. -/
theorem checkRelations_both_iff {a : Activity} {known : String → Bool} {earlier : List String}
    (hknown : ∀ t, known t = true ↔ t ∈ earlier) :
    (∃ names, a.checkRelations known .input [] a.inputs = .ok names ∧
        ∃ names', a.checkRelations known .output names a.outputs = .ok names') ↔
      a.KeepsRules a.tag earlier := by
  constructor
  · rintro ⟨names, hin, names', hout⟩
    obtain ⟨hfitsIn, hnodupIn, rfl⟩ := checkRelations_eq_ok_iff.1 hin
    obtain ⟨hfitsOut, hnodupOut, -⟩ := checkRelations_eq_ok_iff.1 hout
    refine ⟨rfl, ?_, ?_, ?_⟩
    · intro d r hr
      cases d with
      | input => exact (hfitsIn r hr).direction
      | output => exact (hfitsOut r hr).direction
    · rw [List.map_append, List.nodup_append]
      refine ⟨hnodupIn, hnodupOut, fun x hx y hy hxy => ?_⟩
      obtain ⟨r, hr, rfl⟩ := List.mem_map.1 hy
      refine (hfitsOut r hr).name ?_
      rw [List.append_nil, List.mem_reverse]
      exact hxy ▸ hx
    · intro r hr t ht
      rcases List.mem_append.1 hr with hr | hr
      · exact (hknown t).1 ((hfitsIn r hr).dependency t ht)
      · exact (hknown t).1 ((hfitsOut r hr).dependency t ht)
  · intro h
    have hnodup := h.nodup_names
    rw [List.map_append, List.nodup_append] at hnodup
    -- Inputs come first: their names are taken when the outputs are checked.
    obtain ⟨hnodupIn, hnodupOut, hdisjoint⟩ := hnodup
    refine ⟨_, checkRelations_eq_ok_iff.2 ⟨fun r hr => ⟨h.direction .input r hr, by simp,
      fun t ht => (hknown t).2 (h.dependency r (by simp [hr]) t ht)⟩, hnodupIn, rfl⟩,
      _, checkRelations_eq_ok_iff.2 ⟨fun r hr => ⟨h.direction .output r hr, fun hn => ?_,
      fun t ht => (hknown t).2 (h.dependency r (by simp [hr]) t ht)⟩, hnodupOut, rfl⟩⟩
    rw [List.append_nil, List.mem_reverse] at hn
    exact hdisjoint _ hn _ (List.mem_map_of_mem hr) rfl

/-! ### Entries and tables -/

/-- One stored entry is accepted exactly when it keeps the rules behind the keys of the
workflow, and the workflow is extended by it. -/
theorem restoreEntry_eq_ok_iff {w w' : Workflow} {key : String} {a : Activity} :
    w.restoreEntry key a = .ok w' ↔
      a.KeepsRules key w.activities.keys ∧ w.Extends w' key a := by
  have hboth := checkRelations_both_iff (a := a) (fun t => w.isSome_get?_iff (t := t))
  have hinsert : (∃ p, w.insert a = .ok p ∧ (pure p.2 : Except CompileError Workflow) = .ok w') ↔
      w.Extends w' a.tag a := by
    constructor
    · rintro ⟨⟨id, v⟩, hv, heq⟩
      cases heq
      exact (Workflow.insert_eq_ok_iff.1 hv).2
    · intro h
      exact ⟨(⟨w.size⟩, w'), Workflow.insert_eq_ok_iff.2 ⟨rfl, h⟩, rfl⟩
  unfold Workflow.restoreEntry
  -- The key is compared first; the relations and the insertion come after.
  by_cases hkey : key = a.tag
  · subst hkey
    simp only [ne_eq, not_true_eq_false, if_false, except_bind_eq_ok_iff, hinsert]
    rw [← hboth]
    constructor
    · rintro ⟨names, hin, names', hout, hext⟩
      exact ⟨⟨names, hin, names', hout⟩, hext⟩
    · rintro ⟨⟨names, hin, names', hout⟩, hext⟩
      exact ⟨names, hin, names', hout, hext⟩
  · constructor
    · intro h
      simp only [ne_eq, hkey, not_false_eq_true, if_true] at h
      cases h
    · rintro ⟨h, -⟩
      exact absurd h.key_eq hkey

/-- Entries are accepted one after another exactly when they keep the rules from the keys of
the workflow on, and they come behind its own. -/
theorem foldlM_restoreEntry_eq_ok_iff {w w' : Workflow} {es : List (String × Activity)}
    (hnodup : (w.activities.keys ++ es.map Prod.fst).Nodup) :
    es.foldlM (fun w e => w.restoreEntry e.1 e.2) w = .ok w' ↔
      RulesFrom w.activities.keys es ∧ w'.tag = w.tag ∧ w'.description = w.description ∧
        w'.activities.entries = w.activities.entries ++ es := by
  -- The workflow grows with the entries, so the keys that count as earlier grow as well.
  induction es generalizing w with
  | nil =>
      constructor
      · intro h
        cases h
        exact ⟨rulesFrom_nil _, rfl, rfl, by simp⟩
      · rintro ⟨-, htag, hdescription, hentries⟩
        rw [Workflow.ext_entries htag hdescription (by simpa using hentries)]
        rfl
  | cons e es ih =>
      obtain ⟨key, a⟩ := e
      rw [List.foldlM_cons, except_bind_eq_ok_iff, rulesFrom_cons]
      constructor
      · rintro ⟨v, hv, hfold⟩
        obtain ⟨hrules, hext⟩ := restoreEntry_eq_ok_iff.1 hv
        rw [ih (by simpa [hext.keys] using hnodup), hext.keys, hext.entries, hext.tag,
          hext.description] at hfold
        obtain ⟨hrest, htag, hdescription, hentries⟩ := hfold
        exact ⟨⟨hrules, hrest⟩, htag, hdescription, by simpa using hentries⟩
      · rintro ⟨⟨hrules, hrest⟩, htag, hdescription, hentries⟩
        have hnew : key ∉ w.activities.keys := fun hk =>
          (List.nodup_append.1 hnodup).2.2 key hk key (by simp) rfl
        obtain ⟨v, hext⟩ := Workflow.exists_extends a hnew
        refine ⟨v, restoreEntry_eq_ok_iff.2 ⟨hrules, hext⟩, ?_⟩
        rw [ih (by simpa [hext.keys] using hnodup), hext.keys, hext.entries, hext.tag,
          hext.description]
        exact ⟨hrest, htag, hdescription, by simpa using hentries⟩

/-- A stored workflow is accepted exactly when every entry keeps the rules, and it is the
table that was stored. -/
theorem restore_eq_ok_iff {s : StoredWorkflow} {w : Workflow} :
    s.restore = .ok w ↔ RulesFrom [] s.activities.entries ∧
      w = ⟨s.tag, s.description, s.activities⟩ := by
  rw [StoredWorkflow.restore, foldlM_restoreEntry_eq_ok_iff (by
    simpa [Workflow.start] using s.activities.nodup_keys)]
  constructor
  · rintro ⟨hrules, htag, hdescription, hentries⟩
    exact ⟨hrules, Workflow.ext_entries htag hdescription hentries⟩
  · rintro ⟨hrules, rfl⟩
    exact ⟨hrules, rfl, rfl, rfl⟩

/-- What has been restored keeps the rules. -/
theorem wellFormed_of_restore {s : StoredWorkflow} {w : Workflow} (h : s.restore = .ok w) :
    w.WellFormed := by
  obtain ⟨hrules, rfl⟩ := restore_eq_ok_iff.1 h
  exact hrules

end FlowGraph
