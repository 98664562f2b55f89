import FlowGraph.CommandLine.Run

/-!
# `FlowGraph.Main`: the program on the files of a machine

The outer layer: files are those of the machine, and the report of a run becomes the output
and the exit status of the process.
-/

set_option autoImplicit false

namespace FlowGraph

/-- Whether a number with which the machine reports a failure is that of the given reason.
Some calls report the number itself and some its negative. -/
def reports (number reason : UInt32) : Bool := number == reason || number == 0 - reason

/-- The reason for which the machine refused a file. -/
def FileFault.ofIO (e : IO.Error) : FileFault :=
  match e with
  | .noFileOrDirectory .. => .noSuchFile
  | .inappropriateType _ number _ =>
      if reports number 21 then .isDirectory
      else if reports number 20 then .notDirectory
      else .other (toString e)
  | .invalidArgument _ number _ =>
      if reports number 36 then .tooLong else .other (toString e)
  | .permissionDenied _ number _ =>
      if reports number 13 then .other "Permission denied (os error 13)" else .other (toString e)
  | e => .other (toString e)

/-- The files of the machine. -/
instance : Storage IO where
  read path := do
    if '\x00' ∈ path.toList then return .error .zeroInPath
    try
      return .ok (← IO.FS.readBinFile path)
    catch e => return .error (.ofIO e)
  write path content := do
    if '\x00' ∈ path.toList then return .error .zeroInPath
    try
      IO.FS.writeFile path content
      return .ok ()
    catch e => return .error (.ofIO e)

end FlowGraph

/-- The program: the exit status is that of the report, whose lines go to the two outputs. -/
def main (args : List String) : IO UInt32 := do
  let report ← (FlowGraph.CommandLine.run args : IO FlowGraph.CommandLine.Report)
  IO.print report.stdout
  IO.eprint report.stderr
  return report.exit
