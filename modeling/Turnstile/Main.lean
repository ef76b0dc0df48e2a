import Std.Time.DateTime.Timestamp
import Turnstile.Cli.Run

/-!
# Entry Point

Finds out what the program needs to know of its surroundings, runs it, and
prints what it has to say. Listening on ports is left to others, so the program
refuses to answer requests itself.

## Main definitions

* `main`: The program.
-/

namespace Turnstile

namespace Cli

/-- The variables that are set, of those that are asked for. -/
def readEnvironment : IO Environment := do
  let vars ← (Log.filterVariable :: Config.variableNames).filterMapM fun name => do
    return (← IO.getEnv name).map (name, ·)
  return Table.ofList vars

/-- The number that the system has for reading a directory. -/
def directoryCode : UInt32 := 21

/-- What there is at a path. A path that leads nowhere, for instance through a file,
    has nothing; a directory, or what may not be read, is no text. -/
def readSource (path : String) : IO Config.Source := do
  try
    let bytes ← IO.FS.readBinFile path
    return match String.fromUTF8? bytes with
      | some content => .text content
      | none => .unreadable
  catch
    | .permissionDenied .. => return .unreadable
    | .inappropriateType _ code _ =>
      return if code = directoryCode then .unreadable else .absent
    | _ => return .absent

/-- The reading of the clock. -/
def readClock : IO Instant := do
  let t ← Std.Time.Timestamp.now
  return (Instant.ofNanos? t.toNanosecondsSinceUnixEpoch.val).getD Instant.last

/-- What an invocation needs to know of its surroundings. -/
def survey (i : Invocation) : IO Surroundings := do
  let environment ← readEnvironment
  let accountHome := "."
  let path := i.path accountHome environment
  let source ← readSource path
  return {
    environment, accountHome
    source := fun p => if p = path then source else .absent
    isTaken := fun _ => false
    now := ← readClock }

end Cli

end Turnstile

/-- Run the program. -/
def main (arguments : List String) : IO UInt32 := do
  let invocation := (Turnstile.Cli.Invocation.parse arguments).toOption.getD {}
  let outcome := Turnstile.Cli.run arguments (← Turnstile.Cli.survey invocation)
  (← IO.getStdout).putStr outcome.output
  match outcome with
  | .misused => IO.eprintln "error: invalid arguments; for more information, try '--help'."
  | .failed _ => IO.eprintln outcome.complaint
  | .brokenOff => IO.eprintln "The log filter is cut within a character."
  | .serving _ =>
    IO.eprintln "Error: Listening on ports is not supported"
    return 1
  | .finished _ => pure ()
  return outcome.exitCode
