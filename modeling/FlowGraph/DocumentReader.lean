import FlowGraph.Loading

/-!
# `FlowGraph.DocumentReader`: a reader that remembers a database

A reader compiles one document after another and remembers the connection of the last that
compiled. A document that is refused makes it forget; a file that cannot be read, or holds no
document, does not.
-/

set_option autoImplicit false

namespace FlowGraph

/-- A reader and the connection that it remembers, if its last document compiled. -/
structure DocumentReader where
  database : Option Connection
deriving DecidableEq

namespace DocumentReader

/-- A reader that has read nothing. -/
def start : DocumentReader := ⟨none⟩

/-- Compiles a document, given its root element. A document without a section for its
database leaves a connection without attributes. -/
def compile (_ : DocumentReader) (root : Element) :
    (Except CompileError Workflow × Log) × DocumentReader :=
  match FlowGraph.compile root with
  | (.ok c, log) => ((.ok c.workflow, log), ⟨some (c.database.getD .empty)⟩)
  | (.error e, log) => ((.error e, log), ⟨none⟩)

/-- The value of an attribute of the remembered connection. -/
def databaseAttribute (r : DocumentReader) (name : String) : Except CompileError (Option String) :=
  match r.database with
  | some c => .ok (c.attribute? name)
  | none => .error .notCompiled

variable {m : Type → Type} [Monad m] [Storage m]

/-- Reads and compiles the document in a file. -/
def readWorkflow (r : DocumentReader) (path : String) :
    m ((Except LoadError Workflow × Log) × DocumentReader) := do
  match ← (loadDocument path : Task m Element).outcome with
  | (.error e, log) => return ((.error e, .readingWorkflow path :: log), r)
  | (.ok root, log) =>
      let ((result, log'), r) := r.compile root
      return ((result.mapError .compile, .readingWorkflow path :: log ++ log'), r)

end DocumentReader

end FlowGraph
