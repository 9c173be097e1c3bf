import Std.Time.DateTime.Timestamp
import Testbed.CommandLine

/-!
The program: runs a command line on the machine it is started on.
-/

namespace Testbed.CommandLine

/-- Why the machine could not read a file. -/
def readFailure : IO.Error → ReadFailure
  | .noFileOrDirectory .. => .missing
  | .inappropriateType _ code details => ⟨details, code.toNat⟩
  | error => ⟨toString error, 5⟩

/-- The machine that the program is started on. -/
def machine : Host IO where
  readFile path := do
    try return .ok (← IO.FS.readFile path)
    catch error => return .error (readFailure error)
  writeFile path content := IO.FS.writeFile path content
  createFolder path := do
    try
      IO.FS.createDirAll path
      return true
    catch _ => return false
  clock := do
    let now := (← Std.Time.Timestamp.now).toMillisecondsSinceUnixEpoch
    return ⟨0, now.val.toNat, true⟩
  firstToken := do
    let word := IO.rand 0 (UInt32.size - 1)
    return ((← word) * UInt64.size + (← word)) * Desktop.tokensPerCommand

/-- What the program says about its use. -/
def usage : String :=
  "commands: plan, reserve-network, free-network, quota show, quota reserve, quota free, provision"

/-- Say how a command line has ended; the exit code that goes with it. -/
def report : Ending → IO UInt32
  | .silent => return 0
  | .informed => do
    IO.println usage
    return 0
  | .printed document => do
    IO.println (Json.writeIndented document)
    return 0
  | .failed error => do
    IO.eprintln s!"Error: {error.message}"
    return 1
  | .misused => do
    IO.eprintln usage
    return 2

end Testbed.CommandLine

def main (args : List String) : IO UInt32 := do
  Testbed.CommandLine.report (← Testbed.CommandLine.run Testbed.CommandLine.machine args)
