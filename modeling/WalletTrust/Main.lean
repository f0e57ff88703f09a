import WalletTrust.Log.Method
import WalletTrust.Startup
import Std.Time.Format

/-!
# The command line

Starts the service from the environment and the file `.env`, writes the log of the start, and ends
with its exit code. Which entries are written, and how, does not depend on the file.
-/

namespace WalletTrust

def processEnvironment (names : List String) : IO Environment :=
  names.filterMapM fun name => do
    return (← IO.getEnv name).map fun value => (Text.toPoints name, Text.toPoints value)

def textOfFile? (path : String) : IO (Option String) := do
  try
    return some (← IO.FS.readFile path)
  catch _ => return none

/-- The present time in the form in which log lines show it. -/
def presentTime : IO String := do
  let now ← Std.Time.Timestamp.now
  return (Std.Time.DateTime.ofTimestamp now .UTC).format "uuuu-MM-dd'T'HH:mm:ss.SSSSSS'Z'"

def writeEntry (env : Environment) (threshold : Log.Threshold) (e : Log.Entry) : IO Unit := do
  let logger : Log.Logger :=
    { threshold, format := Configuration.logFormat env, name := .text e.source.name
      timestamp := ← presentTime }
  if let .ok (some line) := logger.entry e then
    IO.println (Text.ofPoints line)

def start (env : Environment) (threshold : Log.Threshold) (file? : Option String) :
    IO (Except Failure Startup.Launch) := do
  let disk : Disk := (file?.map fun text => (Startup.environmentFile, .text text)).toList
  match Startup.environmentOn disk env with
  | .error f => return .error f
  | .ok loaded =>
    let (started, _) := Startup.launch loaded disk
    started.log.forM (writeEntry env threshold)
    return started.answer

def exitCode (answer : Except Failure Startup.Launch) : UInt32 :=
  match answer with
  | .ok _ => 0
  | .error (.exit code) => .ofNat code
  | .error _ => 1

end WalletTrust

open WalletTrust in
def main : IO UInt32 := do
  let file? ← textOfFile? ".env"
  let env ← processEnvironment (Configuration.names ++ Environment.mentioned (file?.getD ""))
  match Configuration.logThreshold env with
  | .ok threshold => return exitCode (← start env threshold file?)
  | .error f => return exitCode (.error f)
