import Mathlib.Data.List.Nodup
import FlowGraph.Proofs.Workflow.Rules
import FlowGraph.Workflow.Lint

/-!
# `FlowGraph.Proofs.Workflow.Findings`: the findings about a workflow

What `Workflow.lint` lists, told finding by finding. Every finding but one names the activity that
it is about, so the findings about one activity are those that name its tag.

Nothing is found twice in a workflow that keeps the rules of stored workflows (`nodup_lint`): the
relations of an activity have distinct names, whatever their directions, and activities are kept
under their own tags.
-/

set_option autoImplicit false

namespace FlowGraph

namespace Finding

/-- The tag of the activity that a finding is about. -/
def activity? : Finding → Option String
  | emptyWorkflow => none
  | noInputRelations activity => some activity
  | noOutputRelations activity => some activity
  | emptyRelation activity _ => some activity
  | noAggregationField activity => some activity
  | invalidWorkload activity _ => some activity

/-- A missing direction is found about the activity that misses it. -/
@[simp] theorem activity?_noRelations (t : String) (d : Direction) :
    (noRelations t d).activity? = some t := by
  cases d <;> rfl

/-- Both directions have findings of their own. -/
theorem noRelations_inj {t t' : String} {d d' : Direction}
    (h : noRelations t d = noRelations t' d') : t = t' ∧ d = d' := by
  cases d <;> cases d' <;> cases h <;> exact ⟨rfl, rfl⟩

/-- A missing direction is no empty relation. -/
theorem noRelations_ne_emptyRelation (t t' r : String) (d : Direction) :
    noRelations t d ≠ emptyRelation t' r := by
  cases d <;> simp [noRelations]

end Finding

/-! ### Findings about an activity -/

namespace Activity

variable {a : Activity} {f : Finding}

/-- In a direction it is found that there are no relations, or of a relation that it has no
fields. -/
theorem mem_lintRelations {d : Direction} :
    f ∈ a.lintRelations d ↔ (a.relations d = [] ∧ f = .noRelations a.tag d) ∨
      ∃ r ∈ a.relations d, r.fields = [] ∧ f = .emptyRelation a.tag r.name := by
  rw [lintRelations, List.mem_append]
  refine or_congr ?_ ?_
  · by_cases h : a.relations d = [] <;> simp [h]
  · rw [List.mem_map]
    constructor
    · rintro ⟨r, hr, rfl⟩
      obtain ⟨hmem, hnil⟩ := List.mem_filter.1 hr
      exact ⟨r, hmem, List.isEmpty_iff.1 hnil, rfl⟩
    · rintro ⟨r, hmem, hnil, rfl⟩
      exact ⟨r, List.mem_filter.2 ⟨hmem, List.isEmpty_iff.2 hnil⟩, rfl⟩

/-- What is found about relations is about nothing else. -/
theorem ne_of_mem_lintRelations {d : Direction} (h : f ∈ a.lintRelations d) (t workload : String) :
    f ≠ .noAggregationField t ∧ f ≠ .invalidWorkload t workload := by
  rcases mem_lintRelations.1 h with ⟨-, rfl⟩ | ⟨r, -, -, rfl⟩
  · cases d <;> exact ⟨nofun, nofun⟩
  · exact ⟨nofun, nofun⟩

/-- About an activity: the findings about the relations of both directions, a reduction without
aggregation fields, a workload that is none. -/
theorem mem_lint :
    f ∈ a.lint ↔ (∃ d, f ∈ a.lintRelations d) ∨
      (a.kind = .reduce ∧ a.operandsOf .aggregationField = [] ∧ f = .noAggregationField a.tag) ∨
      (isWorkload a.workload = false ∧ f = .invalidWorkload a.tag a.workload) := by
  have hrelations : f ∈ a.lintRelations .input ++ a.lintRelations .output
      ↔ ∃ d, f ∈ a.lintRelations d := by
    rw [List.mem_append]
    constructor
    · rintro (h | h)
      · exact ⟨.input, h⟩
      · exact ⟨.output, h⟩
    · rintro ⟨d, h⟩
      cases d with
      | input => exact Or.inl h
      | output => exact Or.inr h
  rw [lint, List.mem_append, List.mem_append, hrelations, or_assoc]
  refine or_congr_right (or_congr ?_ ?_)
  · by_cases h : a.kind = .reduce ∧ a.operandsOf .aggregationField = []
    · simp [h]
    · rw [if_neg h]
      simpa using fun hkind hnil => absurd ⟨hkind, hnil⟩ h
  · by_cases h : isWorkload a.workload = true <;> simp [h]

/-- What is found about an activity names it. -/
theorem activity?_of_mem_lint (h : f ∈ a.lint) : f.activity? = some a.tag := by
  rcases mem_lint.1 h with ⟨d, h⟩ | ⟨-, -, rfl⟩ | ⟨-, rfl⟩
  · rcases mem_lintRelations.1 h with ⟨-, rfl⟩ | ⟨r, -, -, rfl⟩
    · exact Finding.activity?_noRelations ..
    · rfl
  · rfl
  · rfl

/-- A direction is found to be missing exactly when the activity has no relations in it. -/
theorem noRelations_mem_lint_iff {d : Direction} :
    .noRelations a.tag d ∈ a.lint ↔ a.relations d = [] := by
  rw [mem_lint]
  constructor
  · rintro (⟨e, h⟩ | ⟨-, -, h⟩ | ⟨-, h⟩)
    · rcases mem_lintRelations.1 h with ⟨hnil, heq⟩ | ⟨r, -, -, heq⟩
      · obtain ⟨-, rfl⟩ := Finding.noRelations_inj heq
        exact hnil
      · exact absurd heq (Finding.noRelations_ne_emptyRelation _ _ _ _)
    · cases d <;> cases h
    · cases d <;> cases h
  · intro h
    exact Or.inl ⟨d, mem_lintRelations.2 (Or.inl ⟨h, rfl⟩)⟩

/-- A name is found to be that of an empty relation exactly when a relation of this name, in
either direction, has no fields. -/
theorem emptyRelation_mem_lint_iff {name : String} :
    .emptyRelation a.tag name ∈ a.lint ↔
      ∃ d, ∃ r ∈ a.relations d, r.fields = [] ∧ r.name = name := by
  rw [mem_lint]
  constructor
  · rintro (⟨d, h⟩ | ⟨-, -, h⟩ | ⟨-, h⟩)
    · rcases mem_lintRelations.1 h with ⟨-, heq⟩ | ⟨r, hr, hnil, heq⟩
      · exact absurd heq.symm (Finding.noRelations_ne_emptyRelation _ _ _ _)
      · cases heq
        exact ⟨d, r, hr, hnil, rfl⟩
    · cases h
    · cases h
  · rintro ⟨d, r, hr, hnil, rfl⟩
    exact Or.inl ⟨d, mem_lintRelations.2 (Or.inr ⟨r, hr, hnil, rfl⟩)⟩

/-- Aggregation fields are found to be missing exactly of a reduction that has none. -/
theorem noAggregationField_mem_lint_iff :
    .noAggregationField a.tag ∈ a.lint ↔
      a.kind = .reduce ∧ a.operandsOf .aggregationField = [] := by
  rw [mem_lint]
  constructor
  · rintro (⟨d, h⟩ | ⟨hkind, hnil, -⟩ | ⟨-, h⟩)
    · exact absurd rfl (ne_of_mem_lintRelations h a.tag a.workload).1
    · exact ⟨hkind, hnil⟩
    · cases h
  · rintro ⟨hkind, hnil⟩
    exact Or.inr (Or.inl ⟨hkind, hnil, rfl⟩)

/-! ### Nothing twice -/

/-- Nothing is found twice in a direction, because its relations have distinct names. -/
theorem nodup_lintRelations {d : Direction} (h : ((a.relations d).map Relation.name).Nodup) :
    (a.lintRelations d).Nodup := by
  rw [lintRelations]
  by_cases hnil : a.relations d = []
  · simp [hnil]
  · have hnames : (((a.relations d).filter (fun r => r.fields.isEmpty)).map Relation.name).Nodup :=
      h.sublist (List.filter_sublist.map _)
    have hfindings := hnames.map (f := Finding.emptyRelation a.tag) (fun r s hrs => by
      cases hrs
      rfl)
    simpa [hnil, Function.comp_def] using hfindings

/-- Nothing is found twice about an activity whose relations have distinct names, whatever their
directions. -/
theorem nodup_lint (h : ((a.inputs ++ a.outputs).map Relation.name).Nodup) : a.lint.Nodup := by
  rw [List.map_append, List.nodup_append] at h
  obtain ⟨hinputs, houtputs, hdisjoint⟩ := h
  have hin : (a.lintRelations .input).Nodup := nodup_lintRelations hinputs
  have hout : (a.lintRelations .output).Nodup := nodup_lintRelations houtputs
  -- A finding tells its direction, or names a relation, and this has one direction.
  have hboth : ∀ f ∈ a.lintRelations .input, ∀ g ∈ a.lintRelations .output, f ≠ g := by
    rintro f hf g hg rfl
    rcases mem_lintRelations.1 hf with ⟨-, rfl⟩ | ⟨r, hr, -, rfl⟩
    · rcases mem_lintRelations.1 hg with ⟨-, heq⟩ | ⟨s, -, -, heq⟩
      · cases heq
      · cases heq
    · rcases mem_lintRelations.1 hg with ⟨-, heq⟩ | ⟨s, hs, -, heq⟩
      · cases heq
      · exact hdisjoint _ (List.mem_map_of_mem hr) _ (List.mem_map_of_mem hs)
          (Finding.emptyRelation.inj heq).2
  have hrelations : ∀ f ∈ a.lintRelations .input ++ a.lintRelations .output, ∀ t workload,
      f ≠ .noAggregationField t ∧ f ≠ .invalidWorkload t workload := by
    intro f hf
    rcases List.mem_append.1 hf with hf | hf
    · exact ne_of_mem_lintRelations hf
    · exact ne_of_mem_lintRelations hf
  rw [lint]
  refine List.nodup_append.2 ⟨List.nodup_append.2 ⟨List.nodup_append.2 ⟨hin, hout, hboth⟩, ?_, ?_⟩,
    ?_, ?_⟩
  · split <;> simp
  · intro f hf g hg
    split at hg
    · rw [List.mem_singleton.1 hg]
      exact (hrelations f hf a.tag a.workload).1
    · cases hg
  · split <;> simp
  · intro f hf g hg
    split at hg
    · cases hg
    · rw [List.mem_singleton.1 hg]
      rcases List.mem_append.1 hf with hf | hf
      · exact (hrelations f hf a.tag a.workload).2
      · split at hf
        · rw [List.mem_singleton.1 hf]
          nofun
        · cases hf

end Activity

/-! ### Findings about a workflow -/

namespace Workflow

variable {w : Workflow} {f : Finding}

/-- About a workflow: that it is empty, or what is found about one of its activities. -/
theorem mem_lint :
    f ∈ w.lint ↔ (w.activities.isEmpty = true ∧ f = .emptyWorkflow) ∨
      ∃ a ∈ w.activities.values, f ∈ a.lint := by
  rw [lint]
  split
  · next h =>
      have hvalues : w.activities.values = [] := by
        rw [Table.values, List.isEmpty_iff.1 h, List.map_nil]
      simp [h, hvalues]
  · next h => simp [h]

/-- Every entry keeps the rules behind some others. -/
theorem WellFormed.keepsRules (h : w.WellFormed) {key : String} {a : Activity}
    (ha : (key, a) ∈ w.activities.entries) : ∃ earlier, a.KeepsRules key earlier := by
  obtain ⟨i, hi⟩ := List.mem_iff_getElem?.1 ha
  exact ⟨_, h i key a hi⟩

/-- Nothing is found twice in a workflow that keeps the rules. -/
theorem nodup_lint (h : w.WellFormed) : w.lint.Nodup := by
  rw [lint]
  split
  · exact List.nodup_singleton _
  · rw [Table.values, List.nodup_flatMap, List.pairwise_map]
    constructor
    · intro a ha
      obtain ⟨⟨key, _⟩, hmem, rfl⟩ := List.mem_map.1 ha
      obtain ⟨earlier, hrules⟩ := h.keepsRules hmem
      exact Activity.nodup_lint hrules.nodup_names
    · -- What is found about two activities names their tags, and these are their keys.
      refine (List.pairwise_map.1 w.activities.nodup_keys).imp_of_mem ?_
      rintro ⟨key, a⟩ ⟨key', b⟩ ha hb hne f hfa hfb
      obtain ⟨earlier, hrules⟩ := h.keepsRules ha
      obtain ⟨earlier', hrules'⟩ := h.keepsRules hb
      have htags : a.tag = b.tag := Option.some.inj
        ((Activity.activity?_of_mem_lint hfa).symm.trans (Activity.activity?_of_mem_lint hfb))
      exact hne (hrules.key_eq.trans (htags.trans hrules'.key_eq.symm))

end Workflow

end FlowGraph
