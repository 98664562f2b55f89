import FlowGraph.Proofs.Compile.Walk

/-!
# `FlowGraph.Proofs.Compile.Operands`: the operands of a declaration

Operands come last, when the activity is filled. Each is recorded, and where it is to be
aggregated on it has to be a field of an output:

* `hasOutputField_filled_iff`: for a filled activity this is `NamesOutputField` of the children.
* `run_compileOperands_of_activity?`: all operands are recorded if they pass, in whatever activity.
* `run_compileOperands_of_forall`: this is said again of the activity that comes last.
* `run_compileOperands_of_first`: the first operand that does not pass is the error.
-/

set_option autoImplicit false

namespace FlowGraph

/-! ### Fields of the outputs -/

/-- The relations that are declared are those that some element declares. -/
theorem mem_declaredRelations {es : List Element} {d : RelationDeclaration} :
    d ∈ declaredRelations es ↔
      ∃ e ∈ es, e.isRelation = true ∧ RelationDeclaration.ofElement e = .ok d := by
  simp [declaredRelations, except_toOption_eq_some_iff, and_assoc]

/-- The fields that join a relation are those of the elements that name it. -/
theorem mem_joinedFields {name : String} {es : List Element} {f : Field} :
    f ∈ joinedFields name es ↔ ∃ e ∈ es, e.isRelation = false ∧
      e.joins?.map Prod.fst = some name ∧ Field.ofElement e = .ok f := by
  simp [joinedFields, except_toOption_eq_some_iff, and_assoc]

/-- A field is found in a relation by its name. -/
theorem Relation.isSome_field?_iff {r : Relation} {name : String} :
    (r.field? name).isSome = true ↔ ∃ f ∈ r.fields, f.name = name := by
  simp [Relation.field?]

/-- A field is found in the output of an activity by its name. -/
theorem Activity.hasOutputField_iff {a : Activity} {name : String} :
    a.hasOutputField name = true ↔ ∃ r ∈ a.outputs, ∃ f ∈ r.fields, f.name = name := by
  rw [hasOutputField, List.any_eq_true]
  simp only [Relation.isSome_field?_iff]

/-- The fields of the outputs of a filled activity are those that the children declare. -/
theorem hasOutputField_filled_iff {es : List Element} (h : ChildrenAcceptable es)
    (shell : Activity) (link : String → Option String) (name : String) :
    (shell.filled link es).hasOutputField name = true ↔ NamesOutputField es name := by
  rw [Activity.hasOutputField_iff]
  constructor
  · rintro ⟨r, hr, f, hf, rfl⟩
    obtain ⟨d, hd, rfl⟩ := List.mem_map.1 hr
    rw [List.mem_filter, decide_eq_true_eq, mem_declaredRelations] at hd
    obtain ⟨⟨rel, hrel, hisrel, hread⟩, houtput⟩ := hd
    obtain ⟨e, he, hisfield, hjoins, hfield⟩ := mem_joinedFields.1 hf
    obtain ⟨⟨relation, direction⟩, hjoins, hrelation⟩ := Option.map_eq_some_iff.1 hjoins
    obtain rfl : relation = d.name := hrelation
    obtain ⟨hname, hdirection, -⟩ := RelationDeclaration.ofElement_eq_ok_iff.1 hread
    exact ⟨e, he, hisfield, (Field.ofElement_eq_ok_iff.1 hfield).1, rel, hrel, hisrel,
      houtput ▸ hdirection, d.name, direction, hname, hjoins⟩
  · rintro ⟨e, he, hisfield, hname, rel, hrel, hisrel, hdirection, relation, direction, hrelation,
      hjoins⟩
    obtain ⟨f, -, -, hf, -⟩ := h.exists_field he hisfield
    have hread : RelationDeclaration.ofElement rel
        = .ok ⟨relation, .output, rel.attribute? "dependency"⟩ :=
      RelationDeclaration.ofElement_eq_ok_iff.2 ⟨hrelation, hdirection, rfl⟩
    -- The output is what the relation element declares, the field what `e` reads as.
    refine ⟨_, List.mem_map_of_mem (List.mem_filter.2
      ⟨mem_declaredRelations.2 ⟨rel, hrel, hisrel, hread⟩, by simp⟩), f, ?_, ?_⟩
    · exact mem_joinedFields.2 ⟨e, he, hisfield, by rw [hjoins]; rfl, hf⟩
    · have hf' := (Field.ofElement_eq_ok_iff.1 hf).1
      exact Option.some.inj (hf'.symm.trans hname)

/-! ### Recording operands -/

/-- An activity with more operands under a kind, one after another. -/
def Activity.addOperands (a : Activity) (kind : OperandKind) (values : List String) : Activity :=
  values.foldl (fun a value => a.addOperand kind value) a

/-- One more operand is added last. -/
theorem Activity.addOperands_concat (a : Activity) (kind : OperandKind) (values : List String)
    (value : String) :
    a.addOperands kind (values ++ [value]) = (a.addOperands kind values).addOperand kind value := by
  rw [addOperands, List.foldl_append]
  rfl

/-- Operands are all that recording them changes. -/
theorem Activity.exists_addOperands_eq (a : Activity) (kind : OperandKind)
    (values : List String) :
    ∃ operands, a.addOperands kind values = { a with operands := operands } := by
  induction values using List.reverseRecOn with
  | nil => exact ⟨a.operands, rfl⟩
  | append_singleton values value ih =>
      obtain ⟨operands, h⟩ := ih
      rw [addOperands_concat, h]
      exact ⟨_, rfl⟩

/-- Operands leave the tag of an activity. -/
@[simp] theorem Activity.addOperands_tag (a : Activity) (kind : OperandKind)
    (values : List String) : (a.addOperands kind values).tag = a.tag := by
  obtain ⟨operands, h⟩ := a.exists_addOperands_eq kind values
  rw [h]

/-- Operands that are recorded in an activity without any are all under their kind, in order. -/
theorem Activity.entries_addOperands {a : Activity} (h : a.operands = .empty)
    (kind : OperandKind) (values : List String) :
    (a.addOperands kind values).operands.entries
      = if values = [] then [] else [(kind, values)] := by
  induction values using List.reverseRecOn with
  | nil =>
      rw [addOperands, List.foldl_nil, h]
      rfl
  | append_singleton values value ih =>
      rw [addOperands_concat, addOperand, Table.update, if_neg (by simp)]
      -- The first operand makes the entry, and the others join it.
      cases values with
      | nil =>
          have hempty : (a.addOperands kind []).operands = .empty := Table.ext_entries ih
          rw [hempty]
          rfl
      | cons first rest =>
          rw [if_neg (by simp)] at ih
          have hkeys : kind ∈ (a.addOperands kind (first :: rest)).operands.keys := by
            rw [Table.keys, ih]
            simp
          have hget : (a.addOperands kind (first :: rest)).operands.get? kind
              = some (first :: rest) := by
            rw [Table.get?_eq_some_iff, ih]
            simp
          rw [Table.entries_set_of_mem _ hkeys, ih, hget]
          simp

/-- An activity with the operands that an attribute lists, if its kind takes any. -/
def Activity.withOperands (a : Activity) (operand : Option String) : Activity :=
  match operand, a.kind.operandKind? with
  | some text, some kind => a.addOperands kind (operandTokens text)
  | _, _ => a

/-- Operands change nothing else of an activity. -/
theorem Activity.exists_withOperands_eq (a : Activity) (operand : Option String) :
    ∃ operands, a.withOperands operand = { a with operands := operands } := by
  unfold withOperands
  split
  · exact a.exists_addOperands_eq _ _
  · exact ⟨a.operands, rfl⟩

/-- An activity whose kind takes operands has those that the text lists. -/
theorem Activity.withOperands_some {a : Activity} {kind : OperandKind}
    (h : a.kind.operandKind? = some kind) (text : String) :
    a.withOperands (some text) = a.addOperands kind (operandTokens text) := by
  simp [withOperands, h]

/-- An activity that takes no operands stays as it is. -/
theorem Activity.withOperands_of_operandKind?_eq_none {a : Activity}
    (h : a.kind.operandKind? = none) (operand : Option String) : a.withOperands operand = a := by
  simp [withOperands, h]

/-- Only a reducing activity aggregates. -/
theorem ActivityKind.operandKind?_eq_aggregationField_iff {k : ActivityKind} :
    k.operandKind? = some .aggregationField ↔ k = .reduce := by
  cases k <;> simp [operandKind?]

/-- Only an evaluating activity takes terms. -/
theorem ActivityKind.operandKind?_eq_minterm_iff {k : ActivityKind} :
    k.operandKind? = some .minterm ↔ k = .evaluate := by
  cases k <;> simp [operandKind?]

/-- What is asked of an operand: nothing, unless it is to be aggregated on. -/
def OperandPasses (a : Activity) (kind : OperandKind) (token : String) : Prop :=
  kind = .aggregationField → a.hasOutputField token = true

/-- The operands that are there do not matter to it. -/
theorem operandPasses_addOperands_iff {a : Activity} {kind other : OperandKind}
    {values : List String} {token : String} :
    OperandPasses (a.addOperands other values) kind token ↔ OperandPasses a kind token := by
  obtain ⟨operands, h⟩ := a.exists_addOperands_eq other values
  rw [h]
  rfl

section Run

variable {w : Workflow} {key : String} {a : Activity} {id : ActivityId} {kind : OperandKind}
  {c : Compilation}

/-- One operand is recorded, and the check comes after. -/
theorem run_compileOperand_eq (ha : c.workflow.activity? id = some a) (token : String) :
    (compileOperand id kind token).run c
      = (if kind = .aggregationField then a.checkAggregationField token else .ok (),
        { c with workflow := c.workflow.update id (·.addOperand kind token) }) := by
  have hadded : (c.workflow.update id (·.addOperand kind token)).activity? id
      = some (a.addOperand kind token) := by
    rw [Workflow.activity?_update, if_pos rfl, ha, Option.map_some]
  by_cases hkind : kind = .aggregationField
  · subst hkind
    simp only [compileOperand, CompileM.run_bind, CompileM.run_modifyWorkflow,
      CompileM.run_workflow, hadded, if_true]
    rfl
  · simp [compileOperand, hkind]

/-- An operand that passes is recorded. -/
theorem run_compileOperand_of_passes (ha : c.workflow.activity? id = some a) {token : String}
    (hpass : OperandPasses a kind token) :
    (compileOperand id kind token).run c
      = (.ok (), { c with workflow := c.workflow.update id (·.addOperand kind token) }) := by
  rw [run_compileOperand_eq ha]
  split
  · next hkind => rw [Activity.checkAggregationField, if_pos (hpass hkind)]
  · rfl

/-- So is an operand that does not pass, but it is refused. -/
theorem run_compileOperand_of_not_passes (ha : c.workflow.activity? id = some a) {token : String}
    (hfail : ¬ OperandPasses a kind token) :
    (compileOperand id kind token).run c = (.error (.missingAggregationField a.tag token),
      { c with workflow := c.workflow.update id (·.addOperand kind token) }) := by
  obtain ⟨hkind, hfield⟩ := Classical.not_imp.1 hfail
  rw [run_compileOperand_eq ha, if_pos hkind, Activity.checkAggregationField, if_neg hfield]

/-- Operands that pass are recorded one after another. -/
theorem run_operands_of_activity? (ha : c.workflow.activity? id = some a) {tokens : List String}
    (hpass : ∀ token ∈ tokens, OperandPasses a kind token) :
    (tokens.forM (compileOperand id kind)).run c
      = (.ok (), { c with workflow :=
          c.workflow.update id (fun _ => a.addOperands kind tokens) }) := by
  induction tokens generalizing a c with
  | nil =>
      show _ = (_, { c with workflow := c.workflow.update id (fun _ => a) })
      rw [Workflow.update_eq_self ha rfl]
      rfl
  | cons token tokens ih =>
      have hrun := run_compileOperand_of_passes ha (hpass token (by simp))
      -- The others are recorded in an activity with one operand more.
      show (compileOperand id kind token >>= fun _ =>
        tokens.forM (compileOperand id kind)).run c = _
      rw [CompileM.run_bind_of_ok hrun, ih (a := a.addOperand kind token)
        (by rw [Workflow.activity?_update, if_pos rfl, ha, Option.map_some])
        (fun t ht => hpass t (by simp [ht])), Workflow.update_update]
      rfl

/-- Operands are recorded if, where they are to be aggregated on, they are fields of the
outputs. -/
theorem run_compileOperands_of_activity? (ha : c.workflow.activity? id = some a)
    (operand : String)
    (hpass : a.kind = .reduce → ∀ token ∈ operandTokens operand, a.hasOutputField token = true) :
    ∃ log, (compileOperands id operand).run c = (.ok (),
      ⟨c.workflow.update id (fun _ => a.withOperands (some operand)), log⟩) := by
  cases hkind : a.kind.operandKind? with
  | none =>
      refine ⟨c.log ++ [.operandsIgnored a.tag a.kind operand], ?_⟩
      rw [Activity.withOperands_of_operandKind?_eq_none hkind, Workflow.update_eq_self ha rfl]
      simp [compileOperands, CompileM.run_bind, ha, hkind]
  | some kind =>
      -- Only the operands of a reduction are checked.
      have hpasses : ∀ token ∈ operandTokens operand, OperandPasses a kind token := by
        rintro token htoken rfl
        exact hpass (ActivityKind.operandKind?_eq_aggregationField_iff.1 hkind) token htoken
      refine ⟨c.log, ?_⟩
      simpa [compileOperands, CompileM.run_bind, ha, hkind, Activity.withOperands_some hkind] using
        run_operands_of_activity? ha hpasses

/-! ### The operands of the last activity -/

/-- What has been recorded when `tokens` are dealt with. -/
def OperandsRecorded (w : Workflow) (key : String) (a : Activity) (kind : OperandKind)
    (tokens : List String) (c : Compilation) : Prop :=
  w.Extends c.workflow key (a.addOperands kind tokens)

section Recorded

variable {tokens : List String} {token : String}

/-- One operand more has been recorded. -/
theorem OperandsRecorded.concat (h : OperandsRecorded w key a kind tokens c) :
    OperandsRecorded w key a kind (tokens ++ [token])
      { c with workflow := c.workflow.update ⟨w.size⟩ (·.addOperand kind token) } := by
  rw [OperandsRecorded, Activity.addOperands_concat]
  exact Workflow.Extends.update h _

/-- An operand that passes is recorded behind the others. -/
theorem OperandsRecorded.step (h : OperandsRecorded w key a kind tokens c)
    (hpass : OperandPasses a kind token) :
    ∃ c', (compileOperand ⟨w.size⟩ kind token).run c = (.ok (), c') ∧
      OperandsRecorded w key a kind (tokens ++ [token]) c' :=
  ⟨_, run_compileOperand_of_passes h.activity?_last (operandPasses_addOperands_iff.2 hpass),
    h.concat⟩

/-- An operand that does not pass is refused. -/
theorem OperandsRecorded.run_compileOperand_of_not_passes
    (h : OperandsRecorded w key a kind tokens c) (hfail : ¬ OperandPasses a kind token) :
    ∃ c', (compileOperand ⟨w.size⟩ kind token).run c
        = (.error (.missingAggregationField a.tag token), c') ∧
      OperandsRecorded w key a kind (tokens ++ [token]) c' := by
  have hrun := FlowGraph.run_compileOperand_of_not_passes h.activity?_last
    (fun hpass => hfail (operandPasses_addOperands_iff.1 hpass))
  rw [Activity.addOperands_tag] at hrun
  exact ⟨_, hrun, h.concat⟩

end Recorded

/-- All operands are recorded if they pass. -/
theorem run_operands_of_forall (h : w.Extends c.workflow key a) {tokens : List String}
    (hpass : ∀ token ∈ tokens, OperandPasses a kind token) :
    ∃ c', (tokens.forM (compileOperand ⟨w.size⟩ kind)).run c = (.ok (), c') ∧
      OperandsRecorded w key a kind tokens c' := by
  exact ⟨_, run_operands_of_activity? h.activity?_last hpass, Workflow.Extends.update h _⟩

/-- The first operand that does not pass is the error. -/
theorem run_operands_of_first (h : w.Extends c.workflow key a) {before : List String}
    {token : String} (after : List String) (hpass : ∀ t ∈ before, OperandPasses a kind t)
    (hfail : ¬ OperandPasses a kind token) :
    ∃ c', ((before ++ token :: after).forM (compileOperand ⟨w.size⟩ kind)).run c
        = (.error (.missingAggregationField a.tag token), c') ∧
      OperandsRecorded w key a kind (before ++ [token]) c' := by
  rw [CompileM.forM_eq_foldlM]
  exact CompileM.run_foldlM_of_first
    (I := fun tokens _ c => OperandsRecorded w key a kind tokens c) after
    (fun before token s c hI hpass => ⟨(), hI.step hpass⟩) h (allBehind_const.2 hpass)
    (fun s c hI => hI.run_compileOperand_of_not_passes hfail)

/-! ### The attribute -/

/-- Operands are recorded if, where they are to be aggregated on, they are fields of the
outputs. -/
theorem run_compileOperands_of_forall (h : w.Extends c.workflow key a) (operand : String)
    (hpass : a.kind = .reduce → ∀ token ∈ operandTokens operand, a.hasOutputField token = true) :
    ∃ c', (compileOperands ⟨w.size⟩ operand).run c = (.ok (), c') ∧
      w.Extends c'.workflow key (a.withOperands (some operand)) := by
  obtain ⟨log, hrun⟩ := run_compileOperands_of_activity? h.activity?_last operand hpass
  exact ⟨_, hrun, Workflow.Extends.update h _⟩

/-- The first operand to aggregate on that is no field of the outputs is the error. -/
theorem run_compileOperands_of_first (h : w.Extends c.workflow key a) {operand token : String}
    {before after : List String} (hreduce : a.kind = .reduce)
    (hsplit : operandTokens operand = before ++ token :: after)
    (hbefore : ∀ t ∈ before, a.hasOutputField t = true) (htoken : a.hasOutputField token ≠ true) :
    ∃ c', (compileOperands ⟨w.size⟩ operand).run c
        = (.error (.missingAggregationField a.tag token), c') ∧
      OperandsRecorded w key a .aggregationField (before ++ [token]) c' := by
  have hkind := ActivityKind.operandKind?_eq_aggregationField_iff.2 hreduce
  obtain ⟨c', hrun, hrecorded⟩ := run_operands_of_first h after
    (fun t ht (_ : OperandKind.aggregationField = _) => hbefore t ht)
    (fun hpass => htoken (hpass rfl))
  refine ⟨c', ?_, hrecorded⟩
  rw [← hsplit] at hrun
  simpa [compileOperands, CompileM.run_bind, h.activity?_last, hkind] using hrun

end Run

end FlowGraph
