import FlowGraph.Proofs.Compile.Document

/-!
# `FlowGraph.Proofs.Compile.OperandLists`: the operands of a compiled activity

Of a compiled workflow, `compile_operands` says what the operands of each activity are
(`Activity.OperandsFollow`): those that its declaration lists, under the one kind that it takes,
and if they are to be aggregated on, fields of its outputs. What is recorded is complete: the
activity without its operands comes back from the text of its operands.
-/

set_option autoImplicit false

namespace FlowGraph

/-! ### The operands of a declaration -/

/-- The operands that a declaration lists. -/
def Element.operands (d : Element) : List String :=
  match d.attribute? "operand" with
  | some text => operandTokens text
  | none => []

/-- What a declaration lists as its operands: what the text does, and nothing without a text. -/
def Element.ListsOperands (d : Element) (values : List String) : Prop :=
  match d.attribute? "operand" with
  | some text => FlowGraph.ListsOperands text values
  | none => values = []

/-- The operands of a declaration are those that it lists. -/
theorem Element.listsOperands_operands (d : Element) : d.ListsOperands d.operands := by
  rw [ListsOperands, operands]
  cases d.attribute? "operand" with
  | none => rfl
  | some text => exact listsOperands_iff.2 rfl

/-- What is listed is trimmed, not empty and without commas. -/
theorem Element.isOperand_of_mem {d : Element} {t : String} (h : t ∈ d.operands) :
    IsOperand t := by
  rw [operands] at h
  split at h
  · exact FlowGraph.isOperand_of_mem h
  · cases h

/-- What is to be aggregated on are fields of the outputs. -/
theorem DeclarationAcceptable.namesOutputField {taken : List String} {d : Element}
    (h : DeclarationAcceptable taken d) (hreduce : d.kind? = some .reduce) :
    ∀ t ∈ d.operands, NamesOutputField d.children t := by
  intro t ht
  rw [Element.operands] at ht
  split at ht
  · next text htext => exact h.operands hreduce text _ htext (listsOperands_iff.2 rfl) t ht
  · cases ht

/-! ### The operands of an activity -/

namespace Activity

/-- The activity without its operands. -/
def withoutOperands (a : Activity) : Activity := { a with operands := .empty }

/-- The operands of an activity, of whatever kind. -/
def operandValues (a : Activity) : List String := a.operands.values.flatten

section Completed

variable {shell : Activity} {d : Element} {kind : OperandKind} (link : String → Option String)

/-- An activity whose kind takes operands is completed with those of its declaration. -/
theorem completed_of_operandKind? (h : shell.kind.operandKind? = some kind) :
    shell.completed link d = (shell.filled link d.children).addOperands kind d.operands := by
  rw [completed, Element.operands]
  cases d.attribute? "operand" with
  | none => rfl
  | some text => exact withOperands_some (a := shell.filled link d.children) h text

/-- An activity whose kind takes no operands is completed as it is. -/
theorem completed_of_operandKind?_eq_none (h : shell.kind.operandKind? = none) :
    shell.completed link d = shell.filled link d.children :=
  withOperands_of_operandKind?_eq_none (a := shell.filled link d.children) h _

/-- What is read off a declaration alone has no operands. -/
theorem operands_filled (hshell : ofElement d = .ok shell) (es : List Element) :
    (shell.filled link es).operands = .empty := by
  rw [filled, (ofElement_eq_ok_iff.1 hshell).2.2]
  rfl

/-- There is at most one entry: what the declaration lists, under the kind that is taken. -/
theorem entries_operands_completed (hshell : ofElement d = .ok shell) :
    (shell.completed link d).operands.entries
      = match shell.kind.operandKind? with
        | some kind => if d.operands = [] then [] else [(kind, d.operands)]
        | none => [] := by
  have hempty := operands_filled link hshell d.children
  cases hkind : shell.kind.operandKind? with
  | none => rw [completed_of_operandKind?_eq_none link hkind, hempty]; rfl
  | some kind => rw [completed_of_operandKind? link hkind, entries_addOperands hempty]

/-- A completed activity keeps its operands in one list of its kind, unless there are none. -/
theorem mem_operands_completed (hshell : ofElement d = .ok shell) {values : List String} :
    (kind, values) ∈ (shell.completed link d).operands.entries ↔
      shell.kind.operandKind? = some kind ∧ values = d.operands ∧ values ≠ [] := by
  rw [entries_operands_completed link hshell]
  cases shell.kind.operandKind? with
  | none => simp
  | some taken =>
      by_cases hnil : d.operands = []
      · simp +contextual [hnil]
      · simp +contextual [hnil, eq_comm]

/-- Only operands of the kind that is taken are there. -/
theorem operandKind?_of_mem_keys (hshell : ofElement d = .ok shell)
    (h : kind ∈ (shell.completed link d).operands.keys) :
    shell.kind.operandKind? = some kind := by
  obtain ⟨⟨_, values⟩, hmem, rfl⟩ := List.mem_map.1 h
  exact ((mem_operands_completed link hshell).1 hmem).1

/-- The operands of a kind are those of the declaration if the activity takes this kind, and
none otherwise. -/
theorem operandsOf_completed (hshell : ofElement d = .ok shell) (kind : OperandKind) :
    (shell.completed link d).operandsOf kind
      = if shell.kind.operandKind? = some kind then d.operands else [] := by
  rw [operandsOf]
  cases hget : (shell.completed link d).operands.get? kind with
  | some values =>
      obtain ⟨hkind, rfl, -⟩ :=
        (mem_operands_completed link hshell).1 (Table.get?_eq_some_iff.1 hget)
      rw [if_pos hkind, Option.getD_some]
  | none =>
      rw [Option.getD_none]
      split
      · next hkind =>
          -- Only an empty list leaves no entry.
          by_cases hnil : d.operands = []
          · exact hnil.symm
          · have hmem := (mem_operands_completed link hshell).2 ⟨hkind, rfl, hnil⟩
            rw [Table.get?_eq_some_iff.2 hmem] at hget
            cases hget
      · rfl

/-- The operands that are joined again are those of the declaration. -/
theorem operandTokens_operandValues (hshell : ofElement d = .ok shell)
    (h : shell.kind.operandKind? = some kind) :
    operandTokens (",".intercalate (shell.completed link d).operandValues) = d.operands := by
  have hvalues : (shell.completed link d).operandValues = d.operands := by
    rw [operandValues, Table.values, entries_operands_completed link hshell, h]
    by_cases hnil : d.operands = [] <;> simp [hnil]
  rw [hvalues, operandTokens_intercalate (fun t ht => Element.isOperand_of_mem ht)]

/-- Operands do not matter to the outputs. -/
theorem hasOutputField_completed (name : String) :
    (shell.completed link d).hasOutputField name
      = (shell.filled link d.children).hasOutputField name := by
  obtain ⟨operands, h⟩ := shell.exists_completed_eq link d
  rw [h]
  rfl

/-- Without its operands a completed activity is what its children make. -/
theorem withoutOperands_completed (hshell : ofElement d = .ok shell) :
    (shell.completed link d).withoutOperands = shell.filled link d.children := by
  obtain ⟨operands, h⟩ := shell.exists_completed_eq link d
  rw [withoutOperands, h, ← operands_filled link hshell d.children]

/-- The activity without its operands comes back from the text of its operands. -/
theorem withOperands_operandValues (hshell : ofElement d = .ok shell) :
    (shell.completed link d).withoutOperands.withOperands
        (some (",".intercalate (shell.completed link d).operandValues))
      = shell.completed link d := by
  rw [withoutOperands_completed link hshell]
  cases hkind : shell.kind.operandKind? with
  | none =>
      rw [completed_of_operandKind?_eq_none link hkind]
      exact withOperands_of_operandKind?_eq_none (a := shell.filled link d.children) hkind _
  | some kind =>
      rw [withOperands_some (a := shell.filled link d.children) hkind,
        operandTokens_operandValues link hshell hkind, completed_of_operandKind? link hkind]

end Completed

/-- What the operands of an activity have to do with its declaration. -/
structure OperandsFollow (a : Activity) (d : Element) : Prop where
  aggregated : .aggregationField ∈ a.operands.keys → a.kind = .reduce
  minterms : .minterm ∈ a.operands.keys → a.kind = .evaluate
  nonempty : ∀ values ∈ a.operands.values, values ≠ []
  reduce : a.kind = .reduce → d.ListsOperands (a.operandsOf .aggregationField)
  evaluate : a.kind = .evaluate → d.ListsOperands (a.operandsOf .minterm)
  outputs : ∀ value ∈ a.operandsOf .aggregationField,
    a.hasOutputField value = true ∧ ∃ r ∈ a.outputs, ∃ f ∈ r.fields, f.name = value

/-- The operands that an acceptable declaration comes to follow it. -/
theorem operandsFollow_completed {shell : Activity} {d : Element} {taken : List String}
    (hshell : ofElement d = .ok shell) (hd : DeclarationAcceptable taken d)
    (link : String → Option String) : (shell.completed link d).OperandsFollow d := by
  have hkind : d.kind? = some shell.kind := (ofElement_eq_ok_iff.1 hshell).2.1
  refine ⟨?_, ?_, ?_, ?_, ?_, ?_⟩
  · intro h
    rw [completed_kind]
    exact ActivityKind.operandKind?_eq_aggregationField_iff.1
      (operandKind?_of_mem_keys link hshell h)
  · intro h
    rw [completed_kind]
    exact ActivityKind.operandKind?_eq_minterm_iff.1 (operandKind?_of_mem_keys link hshell h)
  · intro values h
    obtain ⟨⟨kind, _⟩, hmem, rfl⟩ := List.mem_map.1 h
    exact ((mem_operands_completed link hshell).1 hmem).2.2
  · intro h
    rw [completed_kind] at h
    rw [operandsOf_completed link hshell,
      if_pos (ActivityKind.operandKind?_eq_aggregationField_iff.2 h)]
    exact d.listsOperands_operands
  · intro h
    rw [completed_kind] at h
    rw [operandsOf_completed link hshell, if_pos (ActivityKind.operandKind?_eq_minterm_iff.2 h)]
    exact d.listsOperands_operands
  · intro value hvalue
    rw [operandsOf_completed link hshell] at hvalue
    split at hvalue
    · next hreduce =>
        rw [ActivityKind.operandKind?_eq_aggregationField_iff] at hreduce
        -- The declaration is acceptable, so its operands name fields of the output.
        have houtput := (hasOutputField_filled_iff hd.children shell link value).2
          (hd.namesOutputField (hreduce ▸ hkind) value hvalue)
        rw [← hasOutputField_completed link] at houtput
        exact ⟨houtput, hasOutputField_iff.1 houtput⟩
    · cases hvalue

end Activity

/-! ### Compiled workflows -/

/-- The operands of a compiled activity, joined by commas, can be given to it again when they have
been taken away, and then it is what it was. -/
theorem CompiledFrom.run_compileOperands {ds : List Element} {w : Workflow}
    (h : CompiledFrom ds w) (hds : DeclarationsAcceptable ds) {i : Nat} {a : Activity}
    (ha : w.activity? ⟨i⟩ = some a) (log : Log) :
    ∃ log', (compileOperands ⟨i⟩ (",".intercalate a.operandValues)).run
        ⟨w.update ⟨i⟩ Activity.withoutOperands, log⟩ = (.ok (), ⟨w, log'⟩) := by
  obtain ⟨d, shell, hd, hshell, heq⟩ := h.exists_completed ha
  have hfollow := Activity.operandsFollow_completed hshell (hds.of_getElem? hd)
    (visibleTag (activityTags (ds.take i)))
  have htaken : (w.update ⟨i⟩ Activity.withoutOperands).activity? ⟨i⟩
      = some a.withoutOperands := by
    rw [Workflow.activity?_update, if_pos rfl, ha, Option.map_some]
  have hpass : a.withoutOperands.kind = .reduce →
      ∀ token ∈ operandTokens (",".intercalate a.operandValues),
        a.withoutOperands.hasOutputField token = true := by
    intro hreduce token htoken
    have hkind : shell.kind.operandKind? = some .aggregationField := by
      rw [ActivityKind.operandKind?_eq_aggregationField_iff, ← hreduce, heq]
      exact (Activity.completed_kind ..).symm
    rw [heq, Activity.operandTokens_operandValues _ hshell hkind] at htoken
    -- The outputs are still there, and so are the fields that had been aggregated on.
    have houtput := (hfollow.outputs token
      (by rwa [Activity.operandsOf_completed _ hshell, if_pos hkind])).1
    rwa [← heq] at houtput
  obtain ⟨log', hrun⟩ := run_compileOperands_of_activity?
    (c := ⟨w.update ⟨i⟩ Activity.withoutOperands, log⟩) htaken
    (",".intercalate a.operandValues) hpass
  refine ⟨log', ?_⟩
  have hback : a.withoutOperands.withOperands (some (",".intercalate a.operandValues)) = a := by
    rw [heq]
    exact Activity.withOperands_operandValues _ hshell
  have hsame : w.update ⟨i⟩ ((fun _ => a) ∘ Activity.withoutOperands) = w :=
    Workflow.update_eq_self ha rfl
  rw [hrun, hback, Workflow.update_update, hsame]

/-- In a compiled workflow the operands of every activity follow its declaration: they are what
the declaration lists, under the kind that the activity takes, and those to be aggregated on are
fields of its outputs. Joined by commas they can be given to the activity without them, and this
is the workflow again. -/
theorem compile_operands {root : Element} {doc : CompiledDocument}
    (h : (compile root).1 = .ok doc) :
    ∃ e, root.firstChild? workflowElement = some e ∧
      ∀ i a, doc.workflow.activity? ⟨i⟩ = some a →
        (∃ d, e.children[i]? = some d ∧ d.attribute? "tag" = some a.tag ∧ a.OperandsFollow d) ∧
        ∀ log, ∃ log', (compileOperands ⟨i⟩ (",".intercalate a.operandValues)).run
            ⟨doc.workflow.update ⟨i⟩ Activity.withoutOperands, log⟩
          = (.ok (), ⟨doc.workflow, log'⟩) := by
  obtain ⟨e, hfirst, hdescribes⟩ := describes_of_compile h
  refine ⟨e, hfirst, fun i a ha => ⟨?_, ?_⟩⟩
  · obtain ⟨d, shell, hd, hshell, rfl⟩ := hdescribes.compiled.exists_completed ha
    exact ⟨d, hd, Activity.attribute?_tag_completed hshell _,
      Activity.operandsFollow_completed hshell (hdescribes.acceptable.of_getElem? hd) _⟩
  · exact hdescribes.compiled.run_compileOperands hdescribes.acceptable ha

/-- A reduction over a field that an input has as well, listed twice among blanks, and two
activities that take terms and nothing. -/
def listedTwice : Element :=
  ⟨"Document", .empty, [⟨"Workflow", .ofList [("tag", "w")], [
    ⟨"Activity", .ofList [("tag", "a"), ("type", "reduce"),
        ("operand", " x ,,x\u00A0, \u2003")], [
      ⟨"Relation", .ofList [("name", "p"), ("reltype", "input")], []⟩,
      ⟨"Relation", .ofList [("name", "q"), ("reltype", "output")], []⟩,
      ⟨"Field", .ofList [("name", "x"), ("type", "int"), ("input", "p")], []⟩,
      ⟨"Field", .ofList [("name", "x"), ("type", "int"), ("input", "q")], []⟩]⟩,
    ⟨"Activity", .ofList [("tag", "b"), ("type", "evaluate"), ("operand", "a > 1, b")], []⟩,
    ⟨"Activity", .ofList [("tag", "c"), ("type", "map"), ("operand", "x")], []⟩]⟩]⟩

/-- Every activity has its operands as they are listed, and joined by commas they can be read
again. -/
theorem compile_operands_listedTwice : ∃ doc, (compile listedTwice).1 = .ok doc ∧
    doc.workflow.size = 3 ∧ ∃ e, listedTwice.firstChild? workflowElement = some e ∧
      ∀ i a, doc.workflow.activity? ⟨i⟩ = some a →
        (∃ d, e.children[i]? = some d ∧ d.attribute? "tag" = some a.tag ∧ a.OperandsFollow d) ∧
        ∀ log, ∃ log', (compileOperands ⟨i⟩ (",".intercalate a.operandValues)).run
            ⟨doc.workflow.update ⟨i⟩ Activity.withoutOperands, log⟩
          = (.ok (), ⟨doc.workflow, log'⟩) := by
  have hsize : (compile listedTwice).1.toOption.map (·.workflow.size) = some 3 := by
    decide +kernel
  obtain ⟨doc, hdoc, hthree⟩ := Option.map_eq_some_iff.1 hsize
  rw [except_toOption_eq_some_iff] at hdoc
  exact ⟨doc, hdoc, hthree, compile_operands hdoc⟩

end FlowGraph
