import Std.Time.DateTime.Timestamp
import BlobDepot.Http.Exchange
import BlobDepot.Launch

/-! # The command line

Starts a depot whose files are kept in memory, from the settings in the
environment, and answers one request for each line of standard input.  The end of
the input tells it to leave.
-/

namespace BlobDepot.Console

/-- The variables that the program reads. -/
def variableNames : List String := [
  "CACHE_MAX_ENTRIES", "CACHE_MEMORY", "STORAGE_DIR", "STORAGE_PREFIX", "MAX_BLOB_SIZE",
  "SERVER_PORT", "RUST_LOG", "NO_COLOR"]

def environment : IO Environment := do
  let found ← variableNames.mapM fun name => do
    return (← IO.getEnv name).map fun value => (name, value.toUTF8)
  return found.filterMap id

def now : IO Moment := do
  let stamp ← Std.Time.Timestamp.now
  return ⟨stamp.toSecondsSinceUnixEpoch.val, stamp.val.nano.val.toNat⟩

/-- Writes the lines that are shown of events. -/
def report (env : Environment) (events : List Log.Event) : IO Unit := do
  for line in Launch.shownLines env (← now) events do
    IO.println line

/-- Answers requests until the input ends. -/
partial def answer (service : Service) : IO Unit := do
  let line ← (← IO.getStdin).getLine
  if line.isEmpty then return
  match Http.Request.ofLine? line.trimAsciiEnd.copy with
  | none =>
    IO.println "no request"
    answer service
  | some request =>
    let reply := service.handle (← now) request
    let out ← IO.getStdout
    out.write (reply.response.octets ++ "\n".toUTF8)
    out.flush
    answer reply.service

/-- Runs the program and gives its exit code. -/
def run : IO UInt32 := do
  let env ← environment
  let started := Launch.start env (← now) .empty
  report env started.log
  match started.result with
  | .error (failure, _) =>
    IO.eprint failure.report
    return 1
  | .ok running =>
    answer running.service
    report env (Launch.leave .terminate)
    return 0

end BlobDepot.Console

def main : IO UInt32 :=
  BlobDepot.Console.run
