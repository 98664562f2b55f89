import FlowGraph.Workflow.Dependency

/-!
# `FlowGraph.Workflow.Registry`: the relations declared on one activity

A registry remembers, while the declaration of an activity is walked, where each relation
name stands in the activity. Fields can join only relations that it knows. A `Compilation` is
the workflow under construction with the log so far, and a step of compiling is a `CompileM`:
it leaves a compilation behind also where it fails. `CompileM.run_bind` and the lemmas
around it say what each step leaves; `run_declare_of_mem` says that a name that is taken is
refused and nothing changes.
-/

set_option autoImplicit false

namespace FlowGraph

/-- A workflow under construction and the log so far. -/
structure Compilation where
  workflow : Workflow
  log : Log

/-- A step of compiling: it may fail, and what it has done until then stays done. -/
abbrev CompileM : Type → Type := ExceptT CompileError (StateM Compilation)

namespace CompileM

/-- Records an event. -/
def emit (e : Event) : CompileM Unit := modify (fun c => { c with log := c.log ++ [e] })

/-- Fails if a check does. -/
def check {α : Type} (x : Except CompileError α) : CompileM α := ExceptT.mk (pure x)

/-- Replaces the workflow by its image. -/
def modifyWorkflow (f : Workflow → Workflow) : CompileM Unit :=
  modify (fun c => { c with workflow := f c.workflow })

/-- The workflow as it stands. -/
def workflow : CompileM Workflow := return (← get).workflow

/-- Runs a step on a compilation. -/
def run {α : Type} (x : CompileM α) (c : Compilation) : Except CompileError α × Compilation :=
  Id.run (StateT.run (ExceptT.run x) c)

@[simp] theorem run_pure {α : Type} (a : α) (c : Compilation) :
    (pure a : CompileM α).run c = (.ok a, c) := rfl

@[simp] theorem run_throw {α : Type} (e : CompileError) (c : Compilation) :
    (throw e : CompileM α).run c = (.error e, c) := rfl

@[simp] theorem run_emit (e : Event) (c : Compilation) :
    (emit e).run c = (.ok (), { c with log := c.log ++ [e] }) := rfl

@[simp] theorem run_check {α : Type} (x : Except CompileError α) (c : Compilation) :
    (check x).run c = (x, c) := rfl

@[simp] theorem run_modifyWorkflow (f : Workflow → Workflow) (c : Compilation) :
    (modifyWorkflow f).run c = (.ok (), { c with workflow := f c.workflow }) := rfl

@[simp] theorem run_workflow (c : Compilation) : workflow.run c = (.ok c.workflow, c) := rfl

/-- Two steps in a row: the second runs where the first ends, unless that failed. -/
theorem run_bind {α β : Type} (x : CompileM α) (f : α → CompileM β) (c : Compilation) :
    (x >>= f).run c =
      match x.run c with
      | (.ok a, c') => (f a).run c'
      | (.error e, c') => (.error e, c') := by
  show (StateT.run (ExceptT.run x >>= ExceptT.bindCont f) c) = _
  simp only [StateT.run_bind, run]
  rcases h : StateT.run (ExceptT.run x) c with ⟨r, c'⟩
  cases r <;> rfl

end CompileM

/-- Where a relation stands in its activity. -/
structure RelationRef where
  direction : Direction
  index : Nat
deriving DecidableEq

/-- The relations declared so far on one activity. -/
structure Registry where
  activity : ActivityId
  relations : Table String RelationRef

namespace Registry

/-- A registry that knows no relation yet. -/
def start (activity : ActivityId) : Registry := ⟨activity, .empty⟩

/-- The names of the relations in the order of their declarations. -/
def names (r : Registry) : List String := r.relations.keys

/-- Declares a relation on the activity. A dependency is linked against the activities before
it and stays unset if it does not resolve; a resolved one is kept as the tag of its
activity. -/
def declare (r : Registry) (name : String) (direction : Direction)
    (dependency : Option String) : CompileM (RelationRef × Registry) := do
  let w ← CompileM.workflow
  if h : name ∈ r.relations.keys then
    throw (.duplicateRelation (w.tagOf r.activity) name)
  else
    let linked ← match dependency with
      | none => pure none
      | some tag =>
          let (id?, record) := w.linkDependency r.activity tag
          CompileM.emit record
          pure (id?.map w.tagOf)
    let index := match w.activity? r.activity with
      | some a => (a.relations direction).length
      | none => 0
    let relation : Relation := { Relation.bare name direction with dependency := linked }
    CompileM.modifyWorkflow (fun w => w.update r.activity (·.addRelation relation))
    let ref : RelationRef := ⟨direction, index⟩
    CompileM.emit (.relationDeclared (w.tagOf r.activity) direction name)
    return (ref, { r with relations := r.relations.append name ref h })

/-- The place of the relation that a field names. The refusal lists all relations known. -/
def resolve (r : Registry) (w : Workflow) (field name : String) :
    Except CompileError RelationRef :=
  match r.relations.get? name with
  | some ref => .ok ref
  | none => .error (.unknownRelation (w.tagOf r.activity) field name r.names)

/-- The workflow with a field at the end of a relation of the activity. -/
def attach (r : Registry) (ref : RelationRef) (f : Field) (w : Workflow) : Workflow :=
  w.update r.activity (·.addField ref.direction ref.index f)

/-- A name that is taken is refused, and nothing changes. -/
theorem run_declare_of_mem {r : Registry} {name : String} (direction : Direction)
    (dependency : Option String) (c : Compilation) (h : name ∈ r.relations.keys) :
    (r.declare name direction dependency).run c
      = (.error (.duplicateRelation (c.workflow.tagOf r.activity) name), c) := by
  simp [declare, CompileM.run_bind, h]

end Registry

end FlowGraph
