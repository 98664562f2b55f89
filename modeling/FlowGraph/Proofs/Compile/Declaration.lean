import FlowGraph.Proofs.Compile.Operands

/-!
# `FlowGraph.Proofs.Compile.Declaration`: compiling one declaration

A declaration compiles into any workflow exactly if it is acceptable where the keys of the
workflow are taken:

* `run_compileActivity_of_acceptable`: an acceptable declaration extends the workflow by the
  activity that it comes to, `Activity.completed`, under its tag.
* `run_compileActivity_of_child`, `run_compileActivity_of_operand`: the first fault of a child or an
  operand ends compiling, and what has been done until then is left.
* `run_compileActivity_of_fault`: any other declaration ends compiling with its first fault.
* `extends_of_run_compileActivity`: so whatever compiles is acceptable, and this is what it adds.
-/

set_option autoImplicit false

namespace FlowGraph

/-- The activity that a declaration comes to: filled with what its children declare, with its
operands. -/
def Activity.completed (shell : Activity) (link : String → Option String) (d : Element) :
    Activity :=
  (shell.filled link d.children).withOperands (d.attribute? "operand")

/-- Completing a filled shell gives it operands and changes nothing else. -/
theorem Activity.exists_completed_eq (shell : Activity) (link : String → Option String)
    (d : Element) : ∃ operands, shell.completed link d
      = { shell.filled link d.children with operands := operands } :=
  Activity.exists_withOperands_eq _ _

/-- An activity is completed under its tag. -/
@[simp] theorem Activity.completed_tag (shell : Activity) (link : String → Option String)
    (d : Element) : (shell.completed link d).tag = shell.tag := by
  obtain ⟨operands, h⟩ := shell.exists_completed_eq link d
  rw [h]
  rfl

/-- An activity is completed with its kind. -/
@[simp] theorem Activity.completed_kind (shell : Activity) (link : String → Option String)
    (d : Element) : (shell.completed link d).kind = shell.kind := by
  obtain ⟨operands, h⟩ := shell.exists_completed_eq link d
  rw [h]
  rfl

/-- The tag of a completed activity is the one that its declaration gives. -/
theorem Activity.attribute?_tag_completed {d : Element} {shell : Activity}
    (h : Activity.ofElement d = .ok shell) (link : String → Option String) :
    d.attribute? "tag" = some (shell.completed link d).tag := by
  rw [completed_tag]
  exact (Activity.ofElement_eq_ok_iff.1 h).1

/-- A completed activity has the relations that its children declare. -/
theorem Activity.relations_completed (shell : Activity) (link : String → Option String)
    (d : Element) (direction : Direction) :
    (shell.completed link d).relations direction = relationsOf link d.children direction := by
  obtain ⟨operands, h⟩ := shell.exists_completed_eq link d
  rw [h]
  cases direction <;> rfl

/-- What is read off a declaration alone has no relations yet. -/
theorem Activity.filled_nil {d : Element} {shell : Activity}
    (h : Activity.ofElement d = .ok shell) (link : String → Option String) :
    shell.filled link [] = shell := by
  obtain ⟨-, -, hshell⟩ := Activity.ofElement_eq_ok_iff.1 h
  rw [hshell]
  rfl

/-- A declaration reads as an activity if it has a tag and a known type. -/
theorem exists_ofElement {d : Element} {tag : String} {kind : ActivityKind}
    (htag : d.attribute? "tag" = some tag) (hkind : d.kind? = some kind) :
    ∃ shell, Activity.ofElement d = .ok shell ∧ shell.tag = tag ∧ shell.kind = kind := by
  let shell : Activity := { Activity.bare tag kind with
    description := d.attribute? "description"
    templateDir := d.attribute? "template"
    activation := d.attribute? "activation"
    extractor := d.attribute? "extractor"
    workload := (d.attribute? "workload").getD Activity.defaultWorkload }
  exact ⟨shell, Activity.ofElement_eq_ok_iff.2 ⟨htag, hkind, rfl⟩, rfl, rfl⟩

/-! ### The walk over all children -/

section Children

variable {w : Workflow} {d : Element} {shell : Activity} {es : List Element} {c : Compilation}

/-- Acceptable children are all walked over. -/
theorem run_children_of_acceptable (hshell : Activity.ofElement d = .ok shell)
    (hext : w.Extends c.workflow shell.tag shell) (hes : ChildrenAcceptable es) :
    ∃ r c', (es.foldlM compileChild (.start ⟨w.size⟩)).run c = (.ok r, c') ∧
      Walk w shell es r c' :=
  CompileM.run_foldlM_of_allBehind (I := Walk w shell)
    (fun _ _ _ _ hwalk he => hwalk.step he)
    (Walk.start (by rwa [Activity.filled_nil hshell])) hes

/-- The walk stops at the first child with a fault, with that fault, and leaves what the
children before it make. -/
theorem run_children_of_first (hshell : Activity.ofElement d = .ok shell)
    (hext : w.Extends c.workflow shell.tag shell) {before : List Element} {e : Element}
    {err : CompileError} (after : List Element) (hbefore : ChildrenAcceptable before)
    (hfault : ChildFault shell.tag before e err) :
    ∃ c', ((before ++ e :: after).foldlM compileChild (.start ⟨w.size⟩)).run c
        = (.error err, c') ∧ ∃ r, Walk w shell before r c' :=
  CompileM.run_foldlM_of_first (I := Walk w shell) after
    (fun _ _ _ _ hwalk he => hwalk.step he)
    (Walk.start (by rwa [Activity.filled_nil hshell])) hbefore
    (fun r c hwalk => ⟨c, hwalk.run_compileChild_of_fault hfault, r, hwalk⟩)

end Children

/-! ### The declaration -/

section Declaration

variable {d : Element} {c c₁ c₂ : Compilation} {shell : Activity} {w' : Workflow} {r : Registry}

/-- The compilation with the record of an activity that is finished. -/
def Compilation.finish (c : Compilation) (a : Activity) : Compilation :=
  { c with log := c.log ++
      [.activityCompiled a.tag a.kind a.inputs.length a.outputs.length a.fieldCount] }

/-- A declaration whose parts go well, told from its parts. -/
theorem run_compileActivity_of_parts {a : Activity} (hshell : Activity.ofElement d = .ok shell)
    (hext : c.workflow.Extends w' shell.tag shell)
    (hchildren : (d.children.foldlM compileChild (.start ⟨c.workflow.size⟩)).run
      { c with workflow := w' } = (.ok r, c₁))
    (hoperand : ∀ operand, d.attribute? "operand" = some operand →
      (compileOperands ⟨c.workflow.size⟩ operand).run c₁ = (.ok (), c₂))
    (hnone : d.attribute? "operand" = none → c₂ = c₁)
    (hlast : c₂.workflow.activity? ⟨c.workflow.size⟩ = some a) :
    (compileActivity d).run c = (.ok ⟨c.workflow.size⟩, c₂.finish a) := by
  have hinsert := Workflow.insert_eq_ok_iff.2 ⟨rfl, hext⟩
  -- The run depends on whether there are operands at all.
  cases hattribute : d.attribute? "operand" with
  | none =>
      have hsame := hnone hattribute
      subst hsame
      simp [compileActivity, CompileM.run_bind, hshell, hinsert, hchildren, hattribute, hlast,
        Compilation.finish, -bind_pure_comp]
  | some operand =>
      simp [compileActivity, CompileM.run_bind, hshell, hinsert, hchildren, hattribute, hlast,
        hoperand operand hattribute, Compilation.finish, -bind_pure_comp]

/-- An acceptable declaration extends the workflow by the activity that it comes to. -/
theorem run_compileActivity_of_acceptable
    (h : DeclarationAcceptable c.workflow.activities.keys d) :
    ∃ shell c', Activity.ofElement d = .ok shell ∧
      (compileActivity d).run c = (.ok ⟨c.workflow.size⟩, c') ∧
      c.workflow.Extends c'.workflow shell.tag (shell.completed c.workflow.linkedTag d) := by
  obtain ⟨tag, htag, hnew⟩ := h.tag
  obtain ⟨kind, hkind⟩ := h.kind
  obtain ⟨shell, hshell, rfl, rfl⟩ := exists_ofElement htag hkind
  -- First the activity is inserted, then its children are walked over, then its operands.
  obtain ⟨w', hext⟩ := Workflow.exists_extends shell hnew
  obtain ⟨r, c₁, hchildren, hwalk⟩ :=
    run_children_of_acceptable (c := { c with workflow := w' }) hshell hext h.children
  cases hattribute : d.attribute? "operand" with
  | none =>
      have hfinal : c.workflow.Extends c₁.workflow shell.tag
          (shell.completed c.workflow.linkedTag d) := by
        simpa [Activity.completed, Activity.withOperands, hattribute] using hwalk.workflow
      exact ⟨shell, _, hshell, run_compileActivity_of_parts hshell hext hchildren
        (by simp [hattribute]) (fun _ => rfl) hfinal.activity?_last, hfinal⟩
  | some operand =>
      obtain ⟨c₂, hrun, hrecorded⟩ := run_compileOperands_of_forall hwalk.workflow operand
        (by
          intro hreduce token htoken
          rw [Activity.filled_kind] at hreduce
          exact (hasOutputField_filled_iff h.children _ _ _).2
            (h.operands (hreduce ▸ hkind) operand _ hattribute (listsOperands_iff.2 rfl) token
              htoken))
      have hfinal : c.workflow.Extends c₂.workflow shell.tag
          (shell.completed c.workflow.linkedTag d) := by
        rwa [Activity.completed, hattribute]
      exact ⟨shell, _, hshell, run_compileActivity_of_parts hshell hext hchildren
        (by simp [hattribute, hrun]) (by simp [hattribute]) hfinal.activity?_last, hfinal⟩

/-- A declaration that does not read as an activity changes nothing. -/
theorem run_compileActivity_of_ofElement {err : CompileError}
    (h : Activity.ofElement d = .error err) : (compileActivity d).run c = (.error err, c) :=
  CompileM.run_check_bind_of_error h

/-- A repeated tag is refused, and nothing is changed. -/
theorem run_compileActivity_of_mem (hshell : Activity.ofElement d = .ok shell)
    (hmem : shell.tag ∈ c.workflow.activities.keys) :
    (compileActivity d).run c = (.error (.duplicateActivity shell.tag), c) := by
  have hinsert := Workflow.insert_eq_error_iff.2 ⟨hmem, rfl⟩
  simp [compileActivity, CompileM.run_bind, hshell, hinsert]

/-- The first child that is not acceptable ends compiling. What is left is the activity filled with
the children before it. -/
theorem run_compileActivity_of_child (hshell : Activity.ofElement d = .ok shell)
    (hnew : shell.tag ∉ c.workflow.activities.keys) {before after : List Element} {e : Element}
    {err : CompileError} (hsplit : d.children = before ++ e :: after)
    (hbefore : ChildrenAcceptable before) (hfault : ChildFault shell.tag before e err) :
    ∃ c', (compileActivity d).run c = (.error err, c') ∧
      c.workflow.Extends c'.workflow shell.tag (shell.filled c.workflow.linkedTag before) := by
  obtain ⟨w', hext⟩ := Workflow.exists_extends shell hnew
  have hinsert := Workflow.insert_eq_ok_iff.2 ⟨rfl, hext⟩
  obtain ⟨c', hchildren, r, hwalk⟩ := run_children_of_first (c := { c with workflow := w' })
    hshell hext after hbefore hfault
  rw [← hsplit] at hchildren
  refine ⟨c', ?_, hwalk.workflow⟩
  simp [compileActivity, CompileM.run_bind, hshell, hinsert, hchildren]

/-- So does the first operand to aggregate on that no output has. What is left is the filled
activity with the operands up to this one. -/
theorem run_compileActivity_of_operand (hshell : Activity.ofElement d = .ok shell)
    (hnew : shell.tag ∉ c.workflow.activities.keys) (hreduce : shell.kind = .reduce)
    (hchildren : ChildrenAcceptable d.children) {operand token : String}
    {before after : List String} (hattribute : d.attribute? "operand" = some operand)
    (hsplit : operandTokens operand = before ++ token :: after)
    (hbefore : ∀ t ∈ before, NamesOutputField d.children t)
    (htoken : ¬ NamesOutputField d.children token) :
    ∃ c', (compileActivity d).run c = (.error (.missingAggregationField shell.tag token), c') ∧
      c.workflow.Extends c'.workflow shell.tag ((shell.filled c.workflow.linkedTag
        d.children).addOperands .aggregationField (before ++ [token])) := by
  obtain ⟨w', hext⟩ := Workflow.exists_extends shell hnew
  have hinsert := Workflow.insert_eq_ok_iff.2 ⟨rfl, hext⟩
  obtain ⟨r, c₁, hrun, hwalk⟩ :=
    run_children_of_acceptable (c := { c with workflow := w' }) hshell hext hchildren
  have hfield := hasOutputField_filled_iff hchildren shell c.workflow.linkedTag
  -- The operand is recorded before it is checked, and so it is left as well.
  obtain ⟨c', hoperands, hrecorded⟩ := run_compileOperands_of_first hwalk.workflow
    (by rw [Activity.filled_kind, hreduce]) hsplit (fun t ht => (hfield t).2 (hbefore t ht))
    (fun htrue => htoken ((hfield _).1 htrue))
  refine ⟨c', ?_, hrecorded⟩
  simp [compileActivity, CompileM.run_bind, hshell, hinsert, hrun, hattribute, hoperands]

/-- Any other declaration ends compiling with its first fault. -/
theorem run_compileActivity_of_fault {err : CompileError}
    (h : DeclarationFault c.workflow.activities.keys d err) :
    ∃ c', (compileActivity d).run c = (.error err, c') := by
  cases h with
  | noTag hnone =>
      refine ⟨c, run_compileActivity_of_ofElement ?_⟩
      rw [Activity.ofElement, Element.requiredAttribute_of_none hnone, except_error_bind]
  | noType htag hnone =>
      refine ⟨c, run_compileActivity_of_ofElement ?_⟩
      rw [Activity.ofElement, Element.requiredAttribute_eq_ok_iff.2 htag, except_ok_bind,
        Element.requiredAttribute_of_none hnone, except_error_bind]
  | unknownType htag htype hnone =>
      refine ⟨c, run_compileActivity_of_ofElement ?_⟩
      rw [Activity.ofElement, Element.requiredAttribute_eq_ok_iff.2 htag, except_ok_bind,
        Element.requiredAttribute_eq_ok_iff.2 htype, except_ok_bind,
        ActivityKind.ofText?_eq_none_iff.2 hnone]
      rfl
  -- From here on the shell is read.
  | repeatedTag htag hkind hmem =>
      obtain ⟨shell, hshell, rfl, -⟩ := exists_ofElement htag hkind
      exact ⟨c, run_compileActivity_of_mem hshell hmem⟩
  | child htag hkind hnew hsplit hbefore hfault =>
      obtain ⟨shell, hshell, rfl, -⟩ := exists_ofElement htag hkind
      obtain ⟨c', hrun, -⟩ := run_compileActivity_of_child hshell hnew hsplit hbefore hfault
      exact ⟨c', hrun⟩
  | operand htag hkind hnew hchildren hattribute hlists hbefore htoken =>
      obtain ⟨shell, hshell, rfl, hreduce⟩ := exists_ofElement htag hkind
      obtain ⟨c', hrun, -⟩ := run_compileActivity_of_operand hshell hnew hreduce hchildren
        hattribute (listsOperands_iff.1 hlists) hbefore htoken
      exact ⟨c', hrun⟩

/-- What compiles is acceptable, and has extended the workflow by the activity that it comes to. -/
theorem extends_of_run_compileActivity {id : ActivityId} {c' : Compilation}
    (h : (compileActivity d).run c = (.ok id, c')) :
    DeclarationAcceptable c.workflow.activities.keys d ∧ id = ⟨c.workflow.size⟩ ∧
      ∃ shell, Activity.ofElement d = .ok shell ∧
        c.workflow.Extends c'.workflow shell.tag (shell.completed c.workflow.linkedTag d) := by
  rcases declarationAcceptable_or_fault c.workflow.activities.keys d with hd | ⟨err, hfault⟩
  · obtain ⟨shell, c'', hshell, hrun, hext⟩ := run_compileActivity_of_acceptable hd
    rw [h] at hrun
    cases hrun
    exact ⟨hd, rfl, shell, hshell, hext⟩
  · obtain ⟨c'', hrun⟩ := run_compileActivity_of_fault hfault
    rw [h] at hrun
    cases hrun

end Declaration

end FlowGraph
