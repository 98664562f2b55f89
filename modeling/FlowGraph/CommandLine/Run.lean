import FlowGraph.CommandLine.Arguments
import FlowGraph.Loading

/-!
# `FlowGraph.CommandLine.Run`: what the program does and says

`run` compiles the workflow of a file, prints a summary of it, writes it to a file and lists
replicas where that is asked for, in this order. The first failure ends the run; what has been
printed and written until then stays. The answer is a `Report`: the exit status and the two
texts that the program leaves.
-/

set_option autoImplicit false

namespace FlowGraph.CommandLine

/-- The name of the program. -/
def programName : String := "wfsetup"

/-- The version of the program. -/
def programVersion : String := "0.1.0"

/-- Lines as a text, each with its end. -/
def unlines (lines : List String) : String := String.join (lines.map (· ++ "\n"))

/-- How the program is used. -/
def usage : String := unlines [
  "Usage: wfsetup [OPTIONS] <WORKFLOW_XML>",
  "",
  "Arguments:",
  "  <WORKFLOW_XML>      Workflow description to compile",
  "",
  "Options:",
  "  --emit FILE         Write the compiled workflow (YAML for .yaml/.yml, JSON otherwise)",
  "  --sites FILE        List the replica sites declared in FILE",
  "  --verbose           Enable debug logging",
  "  --help              Show this help message",
  "  --version           Show version information"]

/-! ### The summary -/

/-- The line of a relation, with the activity that it reads from. -/
def relationLine (w : Workflow) (r : Relation) : String :=
  let dependency := match w.dependencyOf? r with
    | some a => s!" <- {a.tag}"
    | none => ""
  s!"      {r.direction.name} {r.name}{dependency}: " ++ ", ".intercalate (r.fields.map (·.name))

/-- The lines of an activity. -/
def activityLines (w : Workflow) (a : Activity) : List String :=
  [s!"  - {a.tag} [{a.kind.name}] workload {a.workload}"] ++
    (a.inputs ++ a.outputs).map (relationLine w) ++
    a.operands.entries.map (fun e => s!"      {e.1.name} " ++ ", ".intercalate e.2)

/-- The lines about what looks wrong in a workflow. -/
def findingLines (w : Workflow) : List String :=
  match w.lint with
  | [] => ["No structural warnings"]
  | findings => findings.map (fun f => s!"warning: {f.message}")

/-- The summary of a compiled description. -/
def summary (c : CompiledDocument) : List String :=
  ["", s!"Workflow {c.workflow.tag} ({c.workflow.size} activities)"] ++
    (match c.workflow.description with
    | some d => [s!"  {d}"]
    | none => []) ++
    c.workflow.activities.values.flatMap (activityLines c.workflow) ++
    findingLines c.workflow ++
    [match c.database.bind (·.server?) with
    | some server => s!"Provenance database: {server}"
    | none => "No database section"]

/-- The line of a replica. What its connection does not tell shows as a question mark. -/
def replicaLine (r : Replica) : String :=
  let known (s : Option String) : String := s.getD "?"
  s!"  {r.role} {known r.database.server?}:{known r.database.port?} " ++
    s!"({known r.database.name?})"

/-! ### The log -/

/-- The line of a record. Only warnings and errors show their level. -/
def logLine (e : Event) : String :=
  match e.level with
  | .warn | .error => s!"[{e.level.name}] {e.text}"
  | .info | .debug => e.text

/-- The lines of a log, down to debugging records if these are asked for. -/
def logLines (verbose : Bool) (log : Log) : List String :=
  (log.upTo (if verbose then .debug else .info)).map logLine

/-! ### The run -/

/-- What a run of the program leaves: its exit status and its two output texts. -/
structure Report where
  exit : UInt32
  stdout : String
  stderr : String
deriving DecidableEq

/-- The lines printed and the records made so far. -/
structure Progress where
  printed : List String
  log : Log

namespace Progress

/-- The report of a run that ends here without failure. -/
def succeed (p : Progress) (verbose : Bool) : Report :=
  ⟨0, unlines (p.printed ++ ["OK"]), unlines (logLines verbose p.log)⟩

/-- The report of a run that fails here. -/
def fail (p : Progress) (verbose : Bool) (reason : String) : Report :=
  ⟨1, unlines p.printed, unlines (logLines verbose p.log ++ ["", s!"Error: {reason}"])⟩

/-- More lines and records. -/
def add (p : Progress) (lines : List String) (log : Log) : Progress :=
  ⟨p.printed ++ lines, p.log ++ log⟩

end Progress

/-- The report of a run whose arguments are refused. -/
def refusal (e : ArgumentError) : Report :=
  ⟨1, usage, unlines [s!"Error: {e.message}", "", "", s!"Error: {e.message}"]⟩

variable {m : Type → Type} [Monad m] [Storage m]

/-- Lists replicas if that is asked for. -/
def listSites (o : Options) (p : Progress) : m Report := do
  match o.sites with
  | none => return p.succeed o.verbose
  | some path =>
      match ← (loadReplicas path : Task m (List Replica)).outcome with
      | (.error e, log) => return (p.add [] log).fail o.verbose e.message
      | (.ok replicas, log) =>
          return (p.add (replicas.map replicaLine) (log ++ [.listingSites path])).succeed o.verbose

/-- Writes the workflow if that is asked for, and goes on to the replicas. -/
def emitWorkflow (o : Options) (w : Workflow) (p : Progress) : m Report := do
  match o.emit with
  | none => listSites o p
  | some path =>
      match ← (saveWorkflow w path : Task m Unit).outcome with
      | (.error e, log) => return (p.add [] log).fail o.verbose e.message
      | (.ok (), log) => listSites o (p.add [] log)

/-- Does what is asked for with the workflow in a file. -/
def compileFile (path : String) (o : Options) : m Report := do
  match ← (loadWorkflow path : Task m CompiledDocument).outcome with
  | (.error e, log) =>
      return (Progress.mk [] (log ++ [.compileFailed e.message])).fail o.verbose
        s!"Could not compile workflow from '{path}': {e.message}"
  | (.ok c, log) =>
      emitWorkflow o c.workflow ⟨summary c, log ++ c.workflow.lintRecord⟩

/-- Runs the program on its arguments. -/
def run (args : List String) : m Report :=
  match parseArguments args with
  | .error e => pure (refusal e)
  | .ok .help => pure ⟨0, usage, ""⟩
  | .ok .version => pure ⟨0, unlines [s!"{programName} {programVersion}"], ""⟩
  | .ok (.compile path o) => compileFile path o

end FlowGraph.CommandLine
