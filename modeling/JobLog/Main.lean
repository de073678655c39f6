import JobLog.CommandLine.Run
import Std.Time.DateTime.Timestamp

/-!
# The program

Reads what surrounds the program, lets `CommandLine.run` decide what happens, and carries it out:
prints, writes the log file, and ends with an exit status. The program is built without a network, so
in the streaming mode it reports that the first system it needs is out of reach.
-/

namespace JobLog.CommandLine

/-- The variables that the program looks at. -/
def variableNames : List String :=
  [modeVariable, "RUST_LOG", "LOG_LEVEL", "LOG_OUTPUT", "LOG_FORMAT", "LOG_DIR",
    "LOG_FILE_PREFIX", "LOG_FILTER", "LOG_INCLUDE_LOCATION", "LOG_INCLUDE_THREAD_IDS",
    "LOG_INCLUDE_TARGETS"] ++ Config.variableNames

/-- The variables that are set. -/
def readVariables : IO Dotenv.Variables :=
  variableNames.filterMapM fun name => do
    return (← IO.getEnv name).map fun value => (name, value)

/-- The file of variables in the working directory, if it can be read. -/
def readDotenv : IO (Option String) := do
  try
    return some (← IO.FS.readFile ".env")
  catch _ =>
    return none

/-- The time on the clock. -/
def readClock : IO Moment := do
  let time ← Std.Time.Timestamp.now
  let nanos := time.toNanosecondsSinceUnixEpoch.toInt
  return ⟨nanos / 1000000000, (nanos % 1000000000).toNat⟩

/-- Add text to the day's log file, below a directory that is made if need be. -/
def appendToLog (settings : LogSettings) (day : Date) (text : String) : IO Unit := do
  IO.FS.createDirAll settings.directory
  let file ← IO.FS.Handle.mk (settings.directory ++ "/" ++ Logging.fileName settings day) .append
  file.putStr text

/-- Carry out what a run has decided. -/
def Result.carryOut (r : Result) (now : Moment) : IO UInt32 := do
  (← IO.getStdout).putStr (r.console now.stamp)
  if r.settings.output.toFile then
    try
      appendToLog r.settings now.date (r.file now.stamp)
    catch e =>
      let directory := "Failed to create log directory " ++ r.settings.directory
      (← IO.getStderr).putStr (failureText [directory, toString e])
      return 1
  (← IO.getStderr).putStr r.errors
  return UInt32.ofNat r.status

end JobLog.CommandLine

open JobLog CommandLine in
/-- Run the program with its arguments. -/
def main (arguments : List String) : IO UInt32 := do
  let now ← readClock
  let network := Network.absent "Network is unreachable (os error 101)" now.seconds
  let world : World Unit := ⟨(), .new 0, [], 0, now⟩
  let around : Surroundings := ⟨arguments, ← readVariables, ← readDotenv, [], now⟩
  (run network world around).carryOut now
