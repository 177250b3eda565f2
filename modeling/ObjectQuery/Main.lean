import ObjectQuery.CommandLine.Run
import Std.Time.DateTime.Timestamp

/-!
# The program

The outer layer of a run: arguments, environment variables, files, the clock and the two streams.
-/

namespace ObjectQuery.CommandLine

/-- The variables that stand in for options. -/
def variableNames : List String :=
  (callerOptions ++ Command.all.flatMap Command.options).filterMap (·.fallback) |>.eraseDups

/-- Those of the variables that are set. -/
def environment : IO Environment := do
  let set ← variableNames.mapM fun name => do return (← IO.getEnv name).map fun value => (name, value)
  return set.filterMap id

/-- The text of a file, if it can be read. -/
def readText? (path : String) : IO (Option String) := do
  try return some (← IO.FS.readFile path) catch _ => return none

/-- The present. -/
def present : IO Instant := do
  let nanos := (← Std.Time.Timestamp.now).toNanosecondsSinceUnixEpoch.val
  return ⟨Int.fdiv nanos 1000000000, (Int.fmod nanos 1000000000).toNat⟩

/-- The file that a run reads: that of the schema. -/
def files (env : Environment) (args : List String) : IO Files := do
  match Invocation.ofArguments env args with
  | .error _ => return fun _ => none
  | .ok call =>
    let text ← readText? call.schemaPath
    return fun path => if path = call.schemaPath then text else none

end ObjectQuery.CommandLine

open ObjectQuery.CommandLine in
/-- Runs the program on the arguments it is called with. -/
def main (args : List String) : IO UInt32 := do
  let env ← environment
  let outcome := run env (← files env args) (← present) args
  (← IO.getStdout).putStr outcome.output
  if let some complaint := outcome.complaint then
    (← IO.getStderr).putStrLn complaint
  return outcome.code.toUInt32
