import FlowGraph.Proofs.Workflow.Rules

/-!
# `FlowGraph.Proofs.Workflow.Refusals`: what is wrong first with a stored workflow

`RulesFrom` says which stored workflows are accepted. Beside it stands here what is reported of
the others, in the order in which they are checked: the entries in order; of an entry, its key
and then its relations, inputs before outputs (`Activity.listed`); of a relation, the list that
it stands in, then its name, then its dependency.

* `Relation.Misfit`, `EntryFault`, `StoredFault`: a relation, an entry and a stored workflow with
  the error of its first violation.
* `exists_entryFault`: an entry that breaks a rule has such a violation.
* `restoreEntry_of_fault`, `restore_of_fault`: it is what is reported.
* `restore_accepts_exactly`: so a stored workflow is either accepted unchanged or refused with
  its first violation. A repeated tag is never what is reported: the keys of a table are
  distinct, and an entry whose key is not its tag is refused for that.

The names that are taken are shared by both directions. Each direction is checked by itself, so
the two checks are first told as one walk over all relations (`checkRelations_both_eq`).
-/

set_option autoImplicit false

namespace FlowGraph

/-! ### Relations in the order of the check -/

/-- The relations of an activity as they are checked, each with the direction of the list that
it stands in. -/
def Activity.listed (a : Activity) : List (Direction × Relation) :=
  a.inputs.map (fun r => (.input, r)) ++ a.outputs.map (fun r => (.output, r))

/-- The names of listed relations. -/
def listedNames (ps : List (Direction × Relation)) : List String := ps.map (fun p => p.2.name)

/-- A listed relation fits behind others if it stands under its own direction, has a name that
none of them has, and depends on nothing but the keys `earlier`. -/
def ListedFits (earlier : List String) (before : List (Direction × Relation))
    (p : Direction × Relation) : Prop :=
  p.2.Fits (fun t => decide (t ∈ earlier)) p.1 (listedNames before)

/-- What is wrong first with a relation in the list of the direction `d`, on the activity `tag`:
the names `taken` are taken, and the keys `earlier` were listed before. -/
inductive Relation.Misfit (r : Relation) (tag : String) (earlier : List String) (d : Direction)
    (taken : List String) : CompileError → Prop where
  | misplaced (h : r.direction ≠ d) :
      Misfit r tag earlier d taken (.misplacedRelation tag r.name)
  | repeatedName (hdirection : r.direction = d) (h : r.name ∈ taken) :
      Misfit r tag earlier d taken (.duplicateRelation tag r.name)
  | lateDependency {t : String} (hdirection : r.direction = d) (hname : r.name ∉ taken)
      (ht : r.dependency = some t) (h : t ∉ earlier) :
      Misfit r tag earlier d taken (.invalidDependency tag r.name t)

/-- A relation that does not fit behind others has a reason for it. -/
theorem fits_or_misfit (tag : String) (earlier : List String)
    (before : List (Direction × Relation)) (p : Direction × Relation) :
    ListedFits earlier before p ∨
      ∃ err, p.2.Misfit tag earlier p.1 (listedNames before) err := by
  -- In the order in which a relation is checked: direction, name, dependency.
  by_cases hdirection : p.2.direction = p.1
  · by_cases hname : p.2.name ∈ listedNames before
    · exact Or.inr ⟨_, .repeatedName hdirection hname⟩
    · cases ht : p.2.dependency with
      | none =>
          refine Or.inl ⟨hdirection, hname, ?_⟩
          intro t ht'
          rw [ht] at ht'
          cases ht'
      | some t =>
          by_cases hearlier : t ∈ earlier
          · refine Or.inl ⟨hdirection, hname, ?_⟩
            intro t' ht'
            rw [ht, Option.some.injEq] at ht'
            exact decide_eq_true (ht' ▸ hearlier)
          · exact Or.inr ⟨_, .lateDependency hdirection hname ht hearlier⟩
  · exact Or.inr ⟨_, .misplaced hdirection⟩

/-! ### The check as one walk -/

/-- The check of one listed relation, where `names` are taken. -/
def Activity.checkListed (a : Activity) (known : String → Bool) (names : List String)
    (p : Direction × Relation) : Except CompileError (List String) :=
  a.checkRelations known p.1 names [p.2]

/-- The relations of a direction are checked one by one. -/
theorem checkRelations_eq_foldlM (a : Activity) (known : String → Bool) (d : Direction)
    (names : List String) (rs : List Relation) :
    a.checkRelations known d names rs
      = (rs.map (fun r => (d, r))).foldlM (a.checkListed known) names := by
  induction rs generalizing names with
  | nil => rfl
  | cons r rs ih =>
      rw [List.map_cons, List.foldlM_cons, Activity.checkListed]
      simp only [Activity.checkRelations]
      -- The head decides in the same order on both sides; where it fits, the tail goes on.
      split
      · rfl
      · split
        · rfl
        · cases r.dependency with
          | none => exact ih _
          | some t =>
              dsimp only
              split
              · exact ih _
              · rfl

/-- Both directions, one after the other, are one walk over all relations. -/
theorem checkRelations_both_eq (a : Activity) (known : String → Bool) :
    (a.checkRelations known .input [] a.inputs >>= fun names =>
        a.checkRelations known .output names a.outputs)
      = a.listed.foldlM (a.checkListed known) [] := by
  simp only [checkRelations_eq_foldlM]
  rw [Activity.listed, List.foldlM_append]

section Check

variable {a : Activity} {known : String → Bool} {earlier : List String}
  (hknown : ∀ t, known t = true ↔ t ∈ earlier)

include hknown

/-- A listed relation that fits takes its name. -/
theorem checkListed_of_fits {before : List (Direction × Relation)} {p : Direction × Relation}
    {names : List String} (hnames : ∀ n, n ∈ names ↔ n ∈ listedNames before)
    (h : ListedFits earlier before p) :
    a.checkListed known names p = .ok (p.2.name :: names) := by
  have hfits : p.2.Fits known p.1 names := by
    refine ⟨h.direction, fun hmem => h.name ((hnames _).1 hmem), ?_⟩
    intro t ht
    exact (hknown t).2 (of_decide_eq_true (h.dependency t ht))
  rw [Activity.checkListed, checkRelations_cons_of_fits hfits]
  rfl

/-- A listed relation that does not fit is refused for what is wrong first with it. -/
theorem checkListed_of_misfit {before : List (Direction × Relation)} {p : Direction × Relation}
    {names : List String} {err : CompileError} (hnames : ∀ n, n ∈ names ↔ n ∈ listedNames before)
    (h : p.2.Misfit a.tag earlier p.1 (listedNames before) err) :
    a.checkListed known names p = .error err := by
  rw [Activity.checkListed, Activity.checkRelations]
  cases h with
  | misplaced hdirection => rw [if_pos hdirection]
  | repeatedName hdirection hname =>
      rw [if_neg (by simp [hdirection]), if_pos ((hnames _).2 hname)]
  | @lateDependency t hdirection hname ht hlate =>
      have hunknown : ¬ known t = true := fun hk => hlate ((hknown t).1 hk)
      rw [if_neg (by simp [hdirection]), if_neg (fun hmem => hname ((hnames _).1 hmem)), ht]
      simp [hunknown]

/-- A walk over relations that fit takes exactly their names. -/
theorem foldlM_checkListed_of_allBehind {ps : List (Direction × Relation)}
    (h : AllBehind (ListedFits earlier) ps) :
    ∃ names, ps.foldlM (a.checkListed known) [] = .ok names ∧
      ∀ n, n ∈ names ↔ n ∈ listedNames ps := by
  -- From the end, because what fits is said of the relations before.
  induction ps using List.reverseRecOn with
  | nil => exact ⟨[], rfl, fun _ => Iff.rfl⟩
  | append_singleton ps p ih =>
      obtain ⟨hps, hp⟩ := allBehind_concat.1 h
      obtain ⟨names, hrun, hnames⟩ := ih hps
      refine ⟨p.2.name :: names, ?_, ?_⟩
      · rw [List.foldlM_append, hrun, except_ok_bind, List.foldlM_cons,
          checkListed_of_fits hknown hnames hp]
        rfl
      · intro n
        simp [listedNames, hnames, or_comm]

end Check

/-- An activity keeps the rules if all of its relations fit behind those before them. -/
theorem keepsRules_of_allBehind {a : Activity} {earlier : List String}
    (h : AllBehind (ListedFits earlier) a.listed) : a.KeepsRules a.tag earlier := by
  have hknown : ∀ t, decide (t ∈ earlier) = true ↔ t ∈ earlier := fun t => decide_eq_true_iff
  obtain ⟨names, hrun, -⟩ := foldlM_checkListed_of_allBehind (a := a) hknown h
  rw [← checkRelations_both_eq, except_bind_eq_ok_iff] at hrun
  obtain ⟨inputNames, hinputs, houtputs⟩ := hrun
  exact (checkRelations_both_iff hknown).1 ⟨inputNames, hinputs, names, houtputs⟩

/-! ### Entries -/

/-- What is wrong first with the entry of `a` under `key` behind the keys `earlier`. -/
inductive EntryFault (key : String) (a : Activity) (earlier : List String) :
    CompileError → Prop where
  | key (h : key ≠ a.tag) : EntryFault key a earlier (.mismatchedActivityKey key a.tag)
  | relation {before after : List (Direction × Relation)} {d : Direction} {r : Relation}
      {err : CompileError} (hkey : key = a.tag) (hsplit : a.listed = before ++ (d, r) :: after)
      (hbefore : AllBehind (ListedFits earlier) before)
      (h : r.Misfit a.tag earlier d (listedNames before) err) :
      EntryFault key a earlier err

/-- An entry that breaks a rule has a first violation. -/
theorem exists_entryFault {key : String} {a : Activity} {earlier : List String}
    (h : ¬ a.KeepsRules key earlier) : ∃ err, EntryFault key a earlier err := by
  by_cases hkey : key = a.tag
  · subst hkey
    rcases allBehind_or_first (ListedFits earlier) a.listed with
      hall | ⟨before, ⟨d, r⟩, after, hsplit, hbefore, hr⟩
    · exact absurd (keepsRules_of_allBehind hall) h
    · obtain ⟨err, hmisfit⟩ := (fits_or_misfit a.tag earlier before (d, r)).resolve_left hr
      exact ⟨err, .relation rfl hsplit hbefore hmisfit⟩
  · exact ⟨_, .key hkey⟩

/-- An entry is refused for what is wrong first with it. -/
theorem restoreEntry_of_fault {w : Workflow} {key : String} {a : Activity} {err : CompileError}
    (h : EntryFault key a w.activities.keys err) : w.restoreEntry key a = .error err := by
  unfold Workflow.restoreEntry
  cases h with
  | key hkey =>
      simp only [ne_eq, hkey, not_false_eq_true, if_true]
      rfl
  | relation hkey hsplit hbefore hmisfit =>
      have hknown : ∀ t, (w.get? t).isSome = true ↔ t ∈ w.activities.keys :=
        fun t => w.isSome_get?_iff
      obtain ⟨names, hrun, hnames⟩ := foldlM_checkListed_of_allBehind (a := a) hknown hbefore
      -- The walk comes as far as the relation, and ends there.
      have hwalk : a.listed.foldlM (a.checkListed fun t => (w.get? t).isSome) [] = .error err := by
        rw [hsplit, List.foldlM_append, hrun, except_ok_bind, List.foldlM_cons,
          checkListed_of_misfit hknown hnames hmisfit, except_error_bind]
      rw [← checkRelations_both_eq] at hwalk
      simp only [ne_eq, hkey, not_true_eq_false, if_false]
      rw [← bind_assoc, hwalk, except_error_bind]

/-- A repeated tag is not among the violations of an entry. -/
theorem EntryFault.ne_duplicateActivity {key : String} {a : Activity} {earlier : List String}
    {err : CompileError} (h : EntryFault key a earlier err) (tag : String) :
    err ≠ .duplicateActivity tag := by
  cases h with
  | key => simp
  | relation hkey hsplit hbefore hmisfit => cases hmisfit <;> simp

/-! ### Stored workflows -/

/-- What is wrong first with a stored workflow: the first violation of the first entry that
breaks a rule behind those before it. -/
inductive StoredFault (s : StoredWorkflow) : CompileError → Prop where
  | entry {before after : List (String × Activity)} {key : String} {a : Activity}
      {err : CompileError} (hsplit : s.activities.entries = before ++ (key, a) :: after)
      (hbefore : RulesFrom [] before) (h : EntryFault key a (before.map Prod.fst) err) :
      StoredFault s err

/-- The rules are asked of every entry behind those before it. -/
theorem rulesFrom_iff_allBehind {es : List (String × Activity)} :
    RulesFrom [] es ↔ AllBehind (fun before e => e.2.KeepsRules e.1 (before.map Prod.fst)) es := by
  constructor
  · rintro h before ⟨key, a⟩ after rfl
    simpa using h before.length key a (by simp)
  · intro h i key a hentry
    simpa using h.of_getElem? hentry

/-- A stored workflow keeps the rules or has a first entry that does not. -/
theorem rulesFrom_or_fault (s : StoredWorkflow) :
    RulesFrom [] s.activities.entries ∨ ∃ err, StoredFault s err := by
  rcases allBehind_or_first (fun before (e : String × Activity) =>
      e.2.KeepsRules e.1 (before.map Prod.fst)) s.activities.entries with
    hall | ⟨before, ⟨key, a⟩, after, hsplit, hbefore, hentry⟩
  · exact Or.inl (rulesFrom_iff_allBehind.2 hall)
  · obtain ⟨err, hfault⟩ := exists_entryFault hentry
    exact Or.inr ⟨err, .entry hsplit (rulesFrom_iff_allBehind.2 hbefore) hfault⟩

/-- A stored workflow is refused for what is wrong first with it. -/
theorem restore_of_fault {s : StoredWorkflow} {err : CompileError} (h : StoredFault s err) :
    s.restore = .error err := by
  obtain @⟨before, after, key, a, _, hsplit, hbefore, hfault⟩ := h
  -- The entries before are a table of their own, and this one is accepted.
  have hnodup : (before.map Prod.fst).Nodup := by
    have hall := s.activities.nodup_keys
    rw [hsplit, List.map_append] at hall
    exact (List.nodup_append.1 hall).1
  have hrestored : StoredWorkflow.restore ⟨s.tag, s.description, ⟨before, hnodup⟩⟩
      = .ok ⟨s.tag, s.description, ⟨before, hnodup⟩⟩ := restore_eq_ok_iff.2 ⟨hbefore, rfl⟩
  rw [StoredWorkflow.restore] at hrestored ⊢
  rw [hsplit, List.foldlM_append, hrestored, except_ok_bind, List.foldlM_cons,
    restoreEntry_of_fault hfault, except_error_bind]

/-- A stored workflow is accepted exactly if every entry keeps the rules behind those before it,
and then it is what was stored, unchanged. It is refused with an error exactly if this is its
first violation, which is never a repeated tag. -/
theorem restore_accepts_exactly (s : StoredWorkflow) :
    (∀ w, s.restore = .ok w ↔ RulesFrom [] s.activities.entries ∧ w.tag = s.tag ∧
      w.description = s.description ∧ w.activities.entries = s.activities.entries) ∧
      (∀ err, s.restore = .error err ↔ StoredFault s err) ∧
      ∀ tag, s.restore ≠ .error (.duplicateActivity tag) := by
  have hok : ∀ w, s.restore = .ok w ↔ RulesFrom [] s.activities.entries ∧ w.tag = s.tag ∧
      w.description = s.description ∧ w.activities.entries = s.activities.entries := by
    intro w
    rw [restore_eq_ok_iff]
    constructor
    · rintro ⟨hrules, rfl⟩
      exact ⟨hrules, rfl, rfl, rfl⟩
    · rintro ⟨hrules, htag, hdescription, hentries⟩
      exact ⟨hrules, Workflow.ext_entries htag hdescription hentries⟩
  have herror : ∀ err, s.restore = .error err ↔ StoredFault s err := by
    intro err
    constructor
    · intro h
      rcases rulesFrom_or_fault s with hrules | ⟨first, hfirst⟩
      · -- The rules are kept, and so nothing is refused.
        rw [restore_eq_ok_iff.2 ⟨hrules, rfl⟩] at h
        cases h
      · rw [restore_of_fault hfirst] at h
        cases h
        exact hfirst
    · exact restore_of_fault
  refine ⟨hok, herror, ?_⟩
  intro tag h
  obtain ⟨-, -, hfault⟩ := (herror _).1 h
  exact hfault.ne_duplicateActivity tag rfl

end FlowGraph
