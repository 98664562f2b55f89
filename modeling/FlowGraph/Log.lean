import FlowGraph.Workflow.Lint

/-!
# `FlowGraph.Log`: what is recorded while a workflow is read

One constructor of `Event` for each kind of record, with its subject as data; `Event.level`
grades it and `Event.text` words it. A `Log` lists events in the order in which they
happened.
-/

set_option autoImplicit false

namespace FlowGraph

/-- How severe a record is. -/
inductive Level where
  | error
  | warn
  | info
  | debug
deriving DecidableEq

namespace Level

/-- The name shown to the user. -/
def name : Level → String
  | error => "ERROR"
  | warn => "WARN"
  | info => "INFO"
  | debug => "DEBUG"

/-- The distance from the most severe level. -/
def rank : Level → Nat
  | error => 0
  | warn => 1
  | info => 2
  | debug => 3

end Level

/-- Something that happened. -/
inductive Event where
  /-- A description without a section for its database. -/
  | noDatabase
  | compiling (workflow : String) (declarations : Nat)
  | compiled (workflow : String) (activities : Nat)
  | activityCompiled (activity : String) (kind : ActivityKind) (inputs outputs fields : Nat)
  | relationDeclared (activity : String) (direction : Direction) (relation : String)
  | dependencyResolved (tag : String) (index : Nat)
  /-- A dependency that is the tag of no activity so far. -/
  | unknownDependency (activity tag : String)
  /-- A dependency on the activity itself or a later one. -/
  | lateDependency (activity tag : String)
  /-- A field that joins a relation under the attribute of the other direction. -/
  | directionMismatch (activity field : String) (named : Direction) (relation : String)
      (actual : Direction)
  | operandsIgnored (activity : String) (kind : ActivityKind) (operand : String)
  | lintFinished (findings : Nat)
  | finding (f : Finding)
  | loadingWorkflow (path : String)
  | readingWorkflow (path : String)
  | documentLoaded (path : String) (bytes : Nat)
  | workflowSaved (path : String)
  | siteSkipped (element : String)
  | sitesFound (count : Nat)
  | listingSites (path : String)
  | compileFailed (reason : String)
deriving DecidableEq

namespace Event

/-- The grade of an event. -/
def level : Event → Level
  | compileFailed .. => .error
  | noDatabase | unknownDependency .. | lateDependency .. | directionMismatch ..
  | operandsIgnored .. | finding .. => .warn
  | compiling .. | compiled .. | loadingWorkflow .. | readingWorkflow .. | workflowSaved ..
  | sitesFound .. | listingSites .. => .info
  | activityCompiled .. | relationDeclared .. | dependencyResolved .. | lintFinished ..
  | documentLoaded .. | siteSkipped .. => .debug

/-- The wording of an event. -/
def text : Event → String
  | noDatabase => "Document has no <database> section"
  | compiling workflow declarations =>
      s!"Compiling workflow '{workflow}' ({declarations} activity declarations)"
  | compiled workflow activities =>
      s!"Workflow '{workflow}' compiled: {activities} activities"
  | activityCompiled activity kind inputs outputs fields =>
      s!"Activity '{activity}' ({kind.name}): {inputs} input / {outputs} output relations, " ++
        s!"{fields} fields"
  | relationDeclared activity direction relation =>
      s!"Activity '{activity}': declared {direction.name} relation '{relation}'"
  | dependencyResolved tag index => s!"Dependency '{tag}' resolved to activity #{index}"
  | unknownDependency activity tag =>
      s!"Activity '{activity}': dependency '{tag}' does not name any activity, " ++
        "leaving it unset"
  | lateDependency activity tag =>
      s!"Activity '{activity}': dependency '{tag}' is not declared before it, " ++
        "leaving it unset"
  | directionMismatch activity field named relation actual =>
      s!"Activity '{activity}': field '{field}' is declared as {named.word} of relation " ++
        s!"'{relation}', which is an {actual.name} relation"
  | operandsIgnored activity kind operand =>
      s!"Activity '{activity}': {kind.name} activities take no operands, " ++
        s!"ignoring '{operand}'"
  | lintFinished findings => s!"Lint found {findings} warnings"
  | finding f => f.message
  | loadingWorkflow path => s!"Loading workflow from: {path}"
  | readingWorkflow path => s!"Reading workflow from: {path}"
  | documentLoaded path bytes => s!"Document loaded from {path} ({bytes} bytes)"
  | workflowSaved path => s!"Workflow saved to: {path}"
  | siteSkipped element => s!"Skipping <{element}> without a replica role"
  | sitesFound count => s!"Found {count} replica sites"
  | listingSites path => s!"Replica sites in {path}:"
  | compileFailed reason => s!"Failed to compile workflow: {reason}"

end Event

/-- Events in the order in which they happened. -/
abbrev Log : Type := List Event

/-- The events of a level and of the more severe ones. -/
def Log.upTo (log : Log) (level : Level) : Log :=
  log.filter (fun e => decide (e.level.rank ≤ level.rank))

/-- The record that a look for findings leaves: their number, unless there was nothing to
look at. -/
def Workflow.lintRecord (w : Workflow) : Log :=
  if w.activities.isEmpty then [] else [.lintFinished w.lint.length]

end FlowGraph
