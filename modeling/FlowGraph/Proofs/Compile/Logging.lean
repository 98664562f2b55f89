import FlowGraph.Proofs.Steps
import FlowGraph.Workflow.Compile

/-!
# `FlowGraph.Proofs.Compile.Logging`: the log is only added to

No step of compiling looks at the log. `CompileM.OnlyAppends` says this of a step: with records
in front of the log it does what it does without them, and they stay in front. It holds of the
primitive steps and of steps in a row, so of everything that is made of them, up to
`onlyAppends_compileActivities`.
-/

set_option autoImplicit false

namespace FlowGraph

variable {α β σ : Type}

/-- The compilation with records in front of its log. -/
def Compilation.behind (l : Log) (c : Compilation) : Compilation := { c with log := l ++ c.log }

namespace CompileM

/-- A step that adds to the log and does not look at it. -/
def OnlyAppends (x : CompileM α) : Prop :=
  ∀ l c, x.run (c.behind l) = ((x.run c).1, (x.run c).2.behind l)

/-! ### Primitive steps -/

/-- A step that only gives a value leaves the log as it is. -/
theorem OnlyAppends.pure (a : α) : OnlyAppends (Pure.pure a) := fun _ _ => rfl

/-- A step that fails does so whatever the log holds. -/
theorem OnlyAppends.throw (e : CompileError) : OnlyAppends (MonadExcept.throw e : CompileM α) :=
  fun _ _ => rfl

/-- A check looks at its own value only. -/
theorem OnlyAppends.check (x : Except CompileError α) : OnlyAppends (CompileM.check x) :=
  fun _ _ => rfl

/-- Looking at the workflow is not looking at the log. -/
theorem OnlyAppends.workflow : OnlyAppends CompileM.workflow := fun _ _ => rfl

/-- A change of the workflow leaves the log as it is. -/
theorem OnlyAppends.modifyWorkflow (f : Workflow → Workflow) :
    OnlyAppends (CompileM.modifyWorkflow f) := fun _ _ => rfl

/-- A record is put behind those that are there. -/
theorem OnlyAppends.emit (e : Event) : OnlyAppends (CompileM.emit e) := by
  intro l c
  simp [Compilation.behind]

/-! ### Steps in a row -/

/-- Two steps in a row only add to the log when each of them does, the second for every value of
the first. -/
theorem OnlyAppends.bind {x : CompileM α} {f : α → CompileM β} (hx : OnlyAppends x)
    (hf : ∀ a, OnlyAppends (f a)) : OnlyAppends (x >>= f) := by
  intro l c
  rw [run_bind, run_bind, hx l c]
  rcases x.run c with ⟨r, c'⟩
  cases r with
  | error e => rfl
  | ok a => exact hf a l c'

/-- A walk only adds to the log when each of its steps does, by induction on the items. -/
theorem OnlyAppends.foldlM {f : σ → α → CompileM σ} (hf : ∀ s a, OnlyAppends (f s a))
    (es : List α) (s : σ) : OnlyAppends (es.foldlM f s) := by
  induction es generalizing s with
  | nil => exact .pure s
  | cons e es ih =>
      rw [List.foldlM_cons]
      exact (hf s e).bind (fun s' => ih s')

/-- The same of a walk without a state of its own. -/
theorem OnlyAppends.forM {f : α → CompileM Unit} (hf : ∀ a, OnlyAppends (f a)) (es : List α) :
    OnlyAppends (es.forM f) := by
  rw [forM_eq_foldlM]
  exact .foldlM (fun _ a => hf a) es ()

end CompileM

open CompileM (OnlyAppends)

/-! ### The steps of compiling -/

/-- A relation is declared by the registry and the workflow; a given dependency and the
declaration itself leave one record each. -/
theorem onlyAppends_declare (r : Registry) (name : String) (direction : Direction)
    (dependency : Option String) : OnlyAppends (r.declare name direction dependency) := by
  have hrest : ∀ (f : Workflow → Workflow) (record : Event) (p : RelationRef × Registry),
      OnlyAppends (do
        CompileM.modifyWorkflow f
        CompileM.emit record
        return p) := by
    intro f record p
    exact .bind (.modifyWorkflow f) (fun _ => .bind (.emit record) (fun _ => .pure p))
  refine .bind .workflow (fun w => ?_)
  split
  · exact .throw _
  · -- Only a dependency that is given leaves a record of its own.
    cases dependency with
    | none => exact .bind (.pure none) (fun linked => hrest _ _ _)
    | some tag => exact .bind (.emit _) (fun _ => .bind (.pure _) (fun linked => hrest _ _ _))

/-- A relation element is read and then declared. -/
theorem onlyAppends_compileRelation (r : Registry) (e : Element) :
    OnlyAppends (compileRelation r e) :=
  .bind (.check _) (fun _ => .bind (onlyAppends_declare r _ _ _) (fun _ => .pure _))

/-- A field is attached to the workflow; the only record is of one that names its relation under the
other direction. -/
theorem onlyAppends_compileField (r : Registry) (e : Element) : OnlyAppends (compileField r e) := by
  refine .bind (.check _) (fun field => .bind .workflow (fun w => .bind (.check _)
    (fun target => .bind (.check _) (fun ref => ?_))))
  dsimp only
  split
  · exact .bind (.emit _) (fun _ => .modifyWorkflow _)
  · exact .modifyWorkflow _

/-- A child is a relation or a field, and either only adds to the log. -/
theorem onlyAppends_compileChild (r : Registry) (e : Element) : OnlyAppends (compileChild r e) := by
  rw [compileChild]
  split
  · exact onlyAppends_compileRelation r e
  · exact .bind (onlyAppends_compileField r e) (fun _ => .pure r)

/-- An operand leaves no record. -/
theorem onlyAppends_compileOperand (id : ActivityId) (kind : OperandKind) (token : String) :
    OnlyAppends (compileOperand id kind token) := by
  refine .bind (.modifyWorkflow _) (fun _ => ?_)
  split
  · refine .bind .workflow (fun w => ?_)
    split
    · exact .check _
    · exact .pure ()
  · exact .pure ()

/-- The operands of an activity leave a record only where its kind takes none. -/
theorem onlyAppends_compileOperands (id : ActivityId) (operand : String) :
    OnlyAppends (compileOperands id operand) := by
  refine .bind .workflow (fun w => ?_)
  split
  · exact .pure ()
  · split
    · exact .forM (onlyAppends_compileOperand id _) _
    · exact .emit _

/-- An activity, whole, only adds to the log: its shell, its children, its operands and the
record of it. -/
theorem onlyAppends_compileActivity (e : Element) : OnlyAppends (compileActivity e) := by
  refine .bind (.check _) (fun shell => .bind .workflow (fun w => .bind (.check _) (fun p => ?_)))
  obtain ⟨id, w'⟩ := p
  refine .bind (.modifyWorkflow _) (fun _ => .bind (.foldlM onlyAppends_compileChild _ _)
    (fun r => ?_))
  -- With operands or without, what is left is the record of the activity.
  split
  case' h_1 => refine .bind (onlyAppends_compileOperands id _) (fun _ => ?_)
  all_goals
    refine .bind .workflow (fun w => ?_)
    split
    · exact .bind (.emit _) (fun _ => .pure _)
    · exact .pure _

/-- A walk over the activities of a document only adds to the log. -/
theorem onlyAppends_compileActivities (es : List Element) :
    OnlyAppends (compileActivities es) :=
  .forM (fun e => .bind (onlyAppends_compileActivity e) (fun _ => .pure ())) es

end FlowGraph
