/-!
# `FlowGraph.CommandLine.Arguments`: what the arguments ask for

Arguments are read from left to right in groups: an option that takes a file makes one group
with the next argument, whatever that is, and every other argument is a group of its own.
A request for help or for the version ends the reading, and so does the first group that does
not fit. Of a repeated option the last file counts.
-/

set_option autoImplicit false

namespace FlowGraph.CommandLine

/-- A group of arguments. -/
inductive Group where
  /-- Write the compiled workflow to a file. -/
  | emit (path : String)
  /-- List the replicas declared in a file. -/
  | sites (path : String)
  /-- An option that takes a file, at the end of the arguments. -/
  | unfinished (option : String)
  | help
  | version
  | verbose
  /-- An argument that begins like an option and is none. -/
  | unknown (option : String)
  /-- The file of a workflow. -/
  | positional (path : String)
deriving DecidableEq

/-- The group that an argument makes on its own. -/
def Group.ofArgument (a : String) : Group :=
  if a = "--help" ∨ a = "-h" then .help
  else if a = "--version" ∨ a = "-V" then .version
  else if a = "--verbose" ∨ a = "-v" then .verbose
  else if a.toList.head? = some '-' then .unknown a
  else .positional a

/-- The groups of a list of arguments. -/
def groups : List String → List Group
  | [] => []
  | [a] => if a = "--emit" ∨ a = "--sites" then [.unfinished a] else [.ofArgument a]
  | a :: b :: rest =>
      if a = "--emit" then .emit b :: groups rest
      else if a = "--sites" then .sites b :: groups rest
      else .ofArgument a :: groups (b :: rest)

/-- What the program is to do with a workflow. -/
structure Options where
  /-- The file of the workflow, once it is known. -/
  workflow : Option String
  emit : Option String
  sites : Option String
  verbose : Bool
deriving DecidableEq

namespace Options

/-- No option set. -/
def start : Options := ⟨none, none, none, false⟩

end Options

/-- What the arguments ask for. -/
inductive Request where
  | help
  | version
  /-- Compile the workflow in the file `path`. -/
  | compile (path : String) (options : Options)
deriving DecidableEq

/-- Why arguments are refused. -/
inductive ArgumentError where
  | missingFile (option : String)
  | unknownOption (option : String)
  | unexpectedArgument (argument : String)
  | noWorkflow
deriving DecidableEq

/-- The sentence shown to the user. -/
def ArgumentError.message : ArgumentError → String
  | missingFile option => s!"{option} requires a file argument"
  | unknownOption option => s!"Unknown option: {option}"
  | unexpectedArgument argument => s!"Unexpected argument: {argument}"
  | noWorkflow => "No workflow file given"

/-- The request that groups make on top of what is set already. -/
def request (o : Options) : List Group → Except ArgumentError Request
  | [] =>
      match o.workflow with
      | some path => .ok (.compile path o)
      | none => .error .noWorkflow
  | .help :: _ => .ok .help
  | .version :: _ => .ok .version
  | .verbose :: gs => request { o with verbose := true } gs
  | .emit path :: gs => request { o with emit := some path } gs
  | .sites path :: gs => request { o with sites := some path } gs
  | .unfinished option :: _ => .error (.missingFile option)
  | .unknown option :: _ => .error (.unknownOption option)
  | .positional path :: gs =>
      match o.workflow with
      | some _ => .error (.unexpectedArgument path)
      | none => request { o with workflow := some path } gs

/-- The request that arguments make. -/
def parseArguments (args : List String) : Except ArgumentError Request :=
  request .start (groups args)

end FlowGraph.CommandLine
