import FlowGraph.Markup.Document
import FlowGraph.Replica
import FlowGraph.Storage.Basic
import FlowGraph.Storage.Path
import FlowGraph.Workflow.Compile
import FlowGraph.Workflow.Stored

/-!
# `FlowGraph.Loading`: workflows and sites from files, and back

The file-based entry points. Each is a `Task`: it reads or writes files, records events as it
goes, and the records stand also where it fails.
-/

set_option autoImplicit false

namespace FlowGraph

/-- Why loading or saving fails. -/
inductive LoadError where
  /-- A file cannot be read or written. -/
  | io (path : String) (fault : FileFault)
  /-- A file holds no document. -/
  | xml (e : Markup.Error)
  /-- The description in a file is refused. -/
  | compile (e : CompileError)

/-- The sentence shown to the user. It speaks of reading also where writing failed. -/
def LoadError.message : LoadError → String
  | io path fault => s!"Failed to read '{path}': {fault.message}"
  | xml e => e.message
  | compile e => e.message

/-- A program on files that keeps a log and may fail. -/
abbrev Task (m : Type → Type) : Type → Type := ExceptT LoadError (StateT Log m)

namespace Task

variable {m : Type → Type} [Monad m] {α : Type}

/-- Adds records to the log. -/
def record (events : Log) : Task m Unit := modify (· ++ events)

/-- The outcome of a compilation with its log. -/
def ofCompilation (x : Except CompileError α × Log) : Task m α := do
  record x.2
  match x.1 with
  | .ok a => return a
  | .error e => throw (.compile e)

/-- The outcome of a task on files and its log. -/
def outcome (t : Task m α) : m (Except LoadError α × Log) := t.run.run []

end Task

variable {m : Type → Type} [Monad m] [Storage m]

/-- The root element of the document in a file. -/
def loadDocument (path : String) : Task m Element := do
  match ← (Storage.read path : m _) with
  | .error fault => throw (.io path fault)
  | .ok bytes =>
      match String.fromUTF8? bytes with
      | none => throw (.io path .notText)
      | some text =>
          Task.record [.documentLoaded path bytes.size]
          match Markup.readElement text with
          | .ok root => return root
          | .error e => throw (.xml e)

/-- The compiled description in a file. What looks wrong in it is recorded. -/
def loadWorkflow (path : String) : Task m CompiledDocument := do
  Task.record [.loadingWorkflow path]
  let root ← loadDocument path
  let compiled ← Task.ofCompilation (compile root)
  Task.record (compiled.workflow.lintRecord ++ compiled.workflow.lint.map .finding)
  return compiled

/-- The replicas listed by the document in a file. -/
def loadReplicas (path : String) : Task m (List Replica) := do
  let root ← loadDocument path
  Task.ofCompilation (Replica.ofDocument root)

/-- The text of a workflow in the format that the name of a file tells. -/
def Workflow.textFor (w : Workflow) (path : String) : String :=
  if Path.isYaml path then w.toYaml else w.toJson

/-- Writes a workflow to a file. -/
def saveWorkflow (w : Workflow) (path : String) : Task m Unit := do
  match ← (Storage.write path (w.textFor path) : m _) with
  | .error fault => throw (.io path fault)
  | .ok () => Task.record [.workflowSaved path]

end FlowGraph
