import FlowGraph.Proofs.Compile.OperandLists
import FlowGraph.Proofs.Workflow.Findings
import FlowGraph.Proofs.Workflow.RoundTrip

/-!
# `FlowGraph.Proofs.Compile.Findings`: what is found about a document

The findings about a compiled workflow, told from the document. `Element.ExplainsFindings` says of
one declaration which findings name its tag, in terms of its attributes and children alone, and
`compile_findings` says it of all declarations.

Relations, fields and operands are those of the declaration (`Activity.Mirrors`,
`Activity.OperandsFollow`), so what is missing in the activity is missing there. That a finding of
one tag is about one declaration rests on the tags being distinct (`CompiledFrom.mem_lint_iff`).
-/

set_option autoImplicit false

namespace FlowGraph

/-! ### What is missing in a declaration -/

/-- No child is a relation of the direction. -/
theorem relationElements_eq_nil_iff {es : List Element} {direction : Direction} :
    relationElements es direction = [] ↔
      ∀ c ∈ es, c.isRelation = true → c.direction? ≠ some direction := by
  rw [relationElements, List.filter_eq_nil_iff]
  simp

/-- No field child gives the name in either attribute. -/
theorem fieldElements_eq_nil_iff {es : List Element} {name : String} :
    fieldElements es name = [] ↔ ∀ c ∈ es, c.isRelation = false →
      c.attribute? "input" ≠ some name ∧ c.attribute? "output" ≠ some name := by
  rw [fieldElements, List.filter_eq_nil_iff]
  simp

/-- A declaration lists no operands if it has no text for them, or one with only commas and
blanks in it. -/
theorem Element.operands_eq_nil_iff {d : Element} :
    d.operands = [] ↔ ∀ text, d.attribute? "operand" = some text →
      ∀ c ∈ text.toList, c = ',' ∨ Text.isBlank c = true := by
  rw [operands]
  cases d.attribute? "operand" with
  | none => simp
  | some text => simp [operandTokens_eq_nil_iff]

/-- In lists that are related item by item, every item of the one has one in the other. -/
theorem exists_of_mem_of_forall₂ {α β : Type} {R : α → β → Prop} {l : List α} {l' : List β} {a : α}
    (h : List.Forall₂ R l l') (ha : a ∈ l) : ∃ b ∈ l', R a b := by
  induction h with
  | nil => cases ha
  | cons hab _ ih =>
      rcases List.mem_cons.1 ha with rfl | ha
      · exact ⟨_, List.mem_cons_self .., hab⟩
      · obtain ⟨b, hb, hR⟩ := ih ha
        exact ⟨b, List.mem_cons_of_mem _ hb, hR⟩

namespace Activity.Mirrors

variable {a : Activity} {d : Element}

/-- Every relation is declared by a child. -/
theorem exists_element (h : a.Mirrors d) {direction : Direction} {r : Relation}
    (hr : r ∈ a.relations direction) :
    ∃ c ∈ d.children, c.isRelation = true ∧ r.Mirrors c d.children := by
  obtain ⟨c, hc, hmirrors⟩ := exists_of_mem_of_forall₂ (h.relations direction) hr
  obtain ⟨hmem, hrel⟩ := List.mem_filter.1 hc
  exact ⟨c, hmem, (Bool.and_eq_true_iff.1 hrel).1, hmirrors⟩

/-- Every child that declares a relation has one. -/
theorem exists_relation (h : a.Mirrors d) {c : Element} (hc : c ∈ d.children)
    (hrel : c.isRelation = true) :
    ∃ direction, ∃ r ∈ a.relations direction, r.Mirrors c d.children := by
  obtain ⟨direction, hmem⟩ := h.covered c hc hrel
  exact ⟨direction, exists_of_mem_of_forall₂ (h.relations direction).flip hmem⟩

/-- A direction of a compiled activity is empty exactly when no child declares a relation in it. -/
theorem relations_eq_nil_iff (h : a.Mirrors d) {direction : Direction} :
    a.relations direction = [] ↔
      ∀ c ∈ d.children, c.isRelation = true → c.direction? ≠ some direction := by
  rw [← relationElements_eq_nil_iff, ← List.length_eq_zero_iff, ← List.length_eq_zero_iff,
    (h.relations direction).length_eq]

/-- The relation of a name has no fields exactly if it is declared, and no field child gives its
name. -/
theorem exists_without_fields_iff (h : a.Mirrors d) {name : String} :
    (∃ direction, ∃ r ∈ a.relations direction, r.fields = [] ∧ r.name = name) ↔
      (∃ c ∈ d.children, c.isRelation = true ∧ c.attribute? "name" = some name) ∧
        ∀ c ∈ d.children, c.isRelation = false →
          c.attribute? "input" ≠ some name ∧ c.attribute? "output" ≠ some name := by
  -- A relation is without fields when no element names it.
  have hfields : ∀ {r : Relation} {c : Element}, r.Mirrors c d.children →
      (r.fields = [] ↔ fieldElements d.children r.name = []) := by
    intro r c hr
    have hread : r.fields.map (Except.ok : Field → Except CompileError Field) = []
        ↔ r.fields = [] := List.map_eq_nil_iff
    rw [← hread, hr.fields, List.map_eq_nil_iff]
  rw [← fieldElements_eq_nil_iff]
  constructor
  · rintro ⟨direction, r, hr, hnil, rfl⟩
    obtain ⟨c, hc, hrel, hmirrors⟩ := h.exists_element hr
    exact ⟨⟨c, hc, hrel, hmirrors.name⟩, (hfields hmirrors).1 hnil⟩
  · rintro ⟨⟨c, hc, hrel, hname⟩, hnil⟩
    obtain ⟨direction, r, hr, hmirrors⟩ := h.exists_relation hc hrel
    obtain rfl : r.name = name := Option.some.inj (hmirrors.name.symm.trans hname)
    exact ⟨direction, r, hr, (hfields hmirrors).2 hnil, rfl⟩

end Activity.Mirrors

/-! ### Findings and declarations -/

/-- What findings there are that name the tag `t`, told from the declaration with this tag. -/
structure Element.ExplainsFindings (d : Element) (t : String) (findings : List Finding) :
    Prop where
  noInput : .noInputRelations t ∈ findings ↔
    ∀ c ∈ d.children, c.isRelation = true → c.direction? ≠ some .input
  noOutput : .noOutputRelations t ∈ findings ↔
    ∀ c ∈ d.children, c.isRelation = true → c.direction? ≠ some .output
  emptyRelation : ∀ name, .emptyRelation t name ∈ findings ↔
    (∃ c ∈ d.children, c.isRelation = true ∧ c.attribute? "name" = some name) ∧
      ∀ c ∈ d.children, c.isRelation = false →
        c.attribute? "input" ≠ some name ∧ c.attribute? "output" ≠ some name
  noAggregationField : .noAggregationField t ∈ findings ↔ d.kind? = some .reduce ∧
    ∀ text, d.attribute? "operand" = some text →
      ∀ c ∈ text.toList, c = ',' ∨ Text.isBlank c = true

/-- Only the findings that name the tag matter. -/
theorem Element.ExplainsFindings.congr {d : Element} {t : String} {fs gs : List Finding}
    (h : d.ExplainsFindings t fs) (hsame : ∀ f, f.activity? = some t → (f ∈ gs ↔ f ∈ fs)) :
    d.ExplainsFindings t gs where
  noInput := (hsame _ rfl).trans h.noInput
  noOutput := (hsame _ rfl).trans h.noOutput
  emptyRelation := fun name => (hsame _ rfl).trans (h.emptyRelation name)
  noAggregationField := (hsame _ rfl).trans h.noAggregationField

/-- The findings about the activity that an acceptable declaration comes to. -/
theorem explainsFindings_completed {shell : Activity} {d : Element}
    (hshell : Activity.ofElement d = .ok shell) (h : ChildrenAcceptable d.children)
    (link : String → Option String) :
    d.ExplainsFindings (shell.completed link d).tag (shell.completed link d).lint := by
  have hmirrors := mirrors_completed hshell h link
  have hkind : d.kind? = some shell.kind := (Activity.ofElement_eq_ok_iff.1 hshell).2.1
  refine ⟨?_, ?_, fun name => ?_, ?_⟩
  · exact (Activity.noRelations_mem_lint_iff (d := .input)).trans hmirrors.relations_eq_nil_iff
  · exact (Activity.noRelations_mem_lint_iff (d := .output)).trans hmirrors.relations_eq_nil_iff
  · exact Activity.emptyRelation_mem_lint_iff.trans hmirrors.exists_without_fields_iff
  · rw [Activity.noAggregationField_mem_lint_iff, ← Element.operands_eq_nil_iff,
      Activity.completed_kind, hkind, Option.some.injEq]
    refine and_congr_right (fun hreduce => ?_)
    rw [Activity.operandsOf_completed link hshell,
      if_pos (ActivityKind.operandKind?_eq_aggregationField_iff.2 hreduce)]

/-- What a finding names is declared: the tag of an activity, and among the children of its
declaration the relation. -/
def Finding.NamesDeclared (ds : List Element) : Finding → Prop
  | .emptyWorkflow => ds = []
  | .noInputRelations t | .noOutputRelations t | .noAggregationField t | .invalidWorkload t _ =>
      ∃ d ∈ ds, d.attribute? "tag" = some t
  | .emptyRelation t name =>
      ∃ d ∈ ds, d.attribute? "tag" = some t ∧
        ∃ c ∈ d.children, c.isRelation = true ∧ c.attribute? "name" = some name

/-- What is found about an activity names its declaration. -/
theorem Activity.Mirrors.namesDeclared {a : Activity} {d : Element} {ds : List Element}
    {f : Finding} (h : a.Mirrors d) (hd : d ∈ ds) (hf : f ∈ a.lint) : f.NamesDeclared ds := by
  rcases Activity.mem_lint.1 hf with ⟨direction, hf⟩ | ⟨-, -, rfl⟩ | ⟨-, rfl⟩
  · rcases Activity.mem_lintRelations.1 hf with ⟨-, rfl⟩ | ⟨r, hr, -, rfl⟩
    · cases direction <;> exact ⟨d, hd, h.tag⟩
    · obtain ⟨c, hc, hrel, hmirrors⟩ := h.exists_element hr
      exact ⟨d, hd, h.tag, c, hc, hrel, hmirrors.name⟩
  · exact ⟨d, hd, h.tag⟩
  · exact ⟨d, hd, h.tag⟩

/-! ### Compiled workflows -/

namespace CompiledFrom

variable {ds : List Element} {w : Workflow}

/-- A compiled workflow is empty exactly when nothing was declared. -/
theorem isEmpty_iff (h : CompiledFrom ds w) : w.activities.isEmpty = true ↔ ds = [] := by
  rw [Table.isEmpty, List.isEmpty_iff, ← List.length_eq_zero_iff, ← List.length_eq_zero_iff,
    ← h.size]
  rfl

/-- What names the tag of an activity is found in the workflow exactly if it is found about this
activity. -/
theorem mem_lint_iff (h : CompiledFrom ds w) {i : Nat} {a : Activity} {f : Finding}
    (ha : w.activity? ⟨i⟩ = some a) (hf : f.activity? = some a.tag) :
    f ∈ w.lint ↔ f ∈ a.lint := by
  rw [Workflow.mem_lint]
  constructor
  · rintro (⟨-, rfl⟩ | ⟨b, hb, hfb⟩)
    · cases hf
    · -- The finding names one tag, and no other activity has it.
      obtain ⟨j, hj⟩ := List.mem_iff_getElem?.1 hb
      obtain ⟨d, hd, htag, -⟩ := h.exists_declaration ha
      obtain ⟨d', hd', htag', -⟩ := h.exists_declaration (i := j) hj
      have htags : b.tag = a.tag :=
        Option.some.inj ((Activity.activity?_of_mem_lint hfb).symm.trans hf)
      obtain rfl := h.index_inj hd hd' htag (htag'.trans (congrArg some htags))
      have hab : a = b := Option.some.inj (ha.symm.trans hj)
      rwa [hab]
  · intro hfa
    exact Or.inr ⟨a, List.mem_of_getElem? ha, hfa⟩

end CompiledFrom

/-- The findings about a compiled workflow describe its document. None comes twice. That there are
no activities is found exactly if nothing is declared, and then this is all that is found. What
else is found names a declared tag, and for every declaration the findings that name its tag are
those that its attributes and children call for. -/
theorem compile_findings {root : Element} {doc : CompiledDocument}
    (h : (compile root).1 = .ok doc) :
    ∃ e, root.firstChild? workflowElement = some e ∧ doc.workflow.lint.Nodup ∧
      (e.children = [] → doc.workflow.lint = [.emptyWorkflow]) ∧
      (e.children ≠ [] → .emptyWorkflow ∉ doc.workflow.lint) ∧
      (∀ d ∈ e.children, ∃ t, d.attribute? "tag" = some t ∧
        d.ExplainsFindings t doc.workflow.lint) ∧
      ∀ f ∈ doc.workflow.lint, f.NamesDeclared e.children := by
  obtain ⟨e, hfirst, hdescribes⟩ := describes_of_compile h
  have hcompiled := hdescribes.compiled
  have hnames : ∀ f ∈ doc.workflow.lint, f.NamesDeclared e.children := by
    intro f hf
    rcases Workflow.mem_lint.1 hf with ⟨hempty, rfl⟩ | ⟨a, ha, hfa⟩
    · exact hcompiled.isEmpty_iff.1 hempty
    · obtain ⟨d, hd, hmirrors⟩ := exists_of_mem_of_forall₂
        (hcompiled.forall₂_mirrors hdescribes.acceptable) ha
      exact hmirrors.namesDeclared hd hfa
  refine ⟨e, hfirst, Workflow.nodup_lint (wellFormed_of_compile h), ?_, ?_, ?_, hnames⟩
  · intro hnil
    rw [Workflow.lint, if_pos (hcompiled.isEmpty_iff.2 hnil)]
  · exact fun hne hmem => hne (hnames _ hmem)
  · intro d hd
    obtain ⟨i, hi⟩ := List.mem_iff_getElem?.1 hd
    obtain ⟨shell, hshell, ha⟩ := hcompiled.activity hi
    -- What is found about the workflow under this tag is what is found about this activity.
    have hexplains := explainsFindings_completed hshell
      (hdescribes.acceptable.of_getElem? hi).children
      (visibleTag (activityTags (e.children.take i)))
    exact ⟨_, Activity.attribute?_tag_completed hshell _,
      hexplains.congr (fun f hf => hcompiled.mem_lint_iff ha hf)⟩

/-- A reduction without operands that has an empty input next to an output with a field, and an
activity without relations, whose operands do not matter. -/
def halfDescribed : Element :=
  ⟨"Document", .empty, [⟨"Workflow", .ofList [("tag", "w")], [
    ⟨"Activity", .ofList [("tag", "a"), ("type", "reduce"), ("operand", " , ,")], [
      ⟨"Relation", .ofList [("name", "p"), ("reltype", "input")], []⟩,
      ⟨"Relation", .ofList [("name", "q"), ("reltype", "output")], []⟩,
      ⟨"Field", .ofList [("name", "x"), ("type", "int"), ("input", "q")], []⟩]⟩,
    ⟨"Activity", .ofList [("tag", "b"), ("type", "map")], []⟩]⟩]⟩

/-- Of the reduction, the empty input and the missing aggregation field are found; of the other
activity, both missing directions. -/
theorem compile_findings_halfDescribed : ∃ doc, (compile halfDescribed).1 = .ok doc ∧
    doc.workflow.lint = [.emptyRelation "a" "p", .noAggregationField "a", .noInputRelations "b",
      .noOutputRelations "b"] ∧
    ∃ e, halfDescribed.firstChild? workflowElement = some e ∧ doc.workflow.lint.Nodup ∧
      (e.children = [] → doc.workflow.lint = [.emptyWorkflow]) ∧
      (e.children ≠ [] → .emptyWorkflow ∉ doc.workflow.lint) ∧
      (∀ d ∈ e.children, ∃ t, d.attribute? "tag" = some t ∧
        d.ExplainsFindings t doc.workflow.lint) ∧
      ∀ f ∈ doc.workflow.lint, f.NamesDeclared e.children := by
  have hlint : (compile halfDescribed).1.toOption.map (·.workflow.lint)
      = some [.emptyRelation "a" "p", .noAggregationField "a", .noInputRelations "b",
        .noOutputRelations "b"] := by
    decide +kernel
  obtain ⟨doc, hdoc, hfound⟩ := Option.map_eq_some_iff.1 hlint
  rw [except_toOption_eq_some_iff] at hdoc
  exact ⟨doc, hdoc, hfound, compile_findings hdoc⟩

end FlowGraph
