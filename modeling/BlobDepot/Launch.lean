import BlobDepot.Log.Filter
import BlobDepot.Service

/-! # The program from start to end

What the server does around its requests: it reads its settings, opens the depot,
announces where it listens, and leaves when it is told to.  Settings that cannot
be used end the program before it touches anything, and a depot that cannot be
opened ends it before it listens.
-/

namespace BlobDepot

/-- How the program is told to leave. -/
inductive Signal where
  | terminate
  | interrupt
  deriving DecidableEq, Repr

namespace Launch

/-- The part of the program that its own log lines name. -/
def logTarget : String := "blob_cache"

def note (message : String) : Log.Event :=
  ⟨.info, logTarget, message, []⟩

/-- The stages of the program that can fail. -/
inductive Stage where
  | configuring
  | opening
  deriving DecidableEq, Repr

def Stage.failure : Stage → String
  | .configuring => "configuration rejected"
  | .opening => "failed to open blob storage"

structure Failure where
  stage : Stage
  fault : Fault

/-- The program as it listens: its settings and its service. -/
structure Running where
  settings : Settings
  service : Service

/-- What the start of the program led to: its log, and the program as it listens or
    the failure with the tree that it left behind. -/
structure Start where
  log : List Log.Event
  result : Except (Failure × FileTree) Running

def loadedMessage (s : Settings) : String :=
  "Configuration loaded: cache_entries=" ++ toString s.entryLimit ++
  ", cache_memory=" ++ toString s.byteLimit ++
  ", storage_dir=" ++ s.directory ++
  ", port=" ++ toString s.port

def start (env : Environment) (now : Moment) (t : FileTree) : Start :=
  let starting := note "Starting Blob Cache Server"
  match Settings.load env with
  | .error d =>
    let fault := d.fault
    ⟨[starting, ⟨.error, logTarget, fault.message, []⟩], .error (⟨.configuring, fault⟩, t)⟩
  | .ok settings =>
    let loaded := note (loadedMessage settings)
    match Service.start settings now t with
    | ⟨log, .error (fault, tree)⟩ =>
      ⟨[starting, loaded] ++ log, .error (⟨.opening, fault⟩, tree)⟩
    | ⟨log, .ok service⟩ =>
      let listening := note ("Server listening on http://0.0.0.0:" ++ toString settings.port)
      ⟨[starting, loaded] ++ log ++ [listening], .ok ⟨settings, service⟩⟩

/-- The part of the program that accepts connections, as its log lines name it. -/
def acceptTarget : String := "axum::serve"

/-- What is logged when the program leaves.  Once it is told to, it takes no more
    connections and waits for those that are open, of which there are none. -/
def leave (signal : Signal) : List Log.Event :=
  let told :=
    match signal with
    | .terminate => "Received SIGTERM, initiating shutdown..."
    | .interrupt => "Received Ctrl+C, initiating shutdown..."
  [note told,
    ⟨.trace, acceptTarget, "received graceful shutdown signal. Telling tasks to shutdown", []⟩,
    ⟨.trace, acceptTarget, "signal received, not accepting new connections", []⟩,
    ⟨.trace, acceptTarget, "waiting for 0 task(s) to finish", []⟩,
    note "Server shutdown complete"]

/-- A cause in an error report, its further lines set in by `indent`. -/
def cause (indent : String) (text : String) : String :=
  String.ofList (text.toList.flatMap fun c =>
    if c = '\n' then '\n' :: indent.toList else [c])

/-- The report of a failure on the error stream.  A failed file operation is the
    cause of the fault that tells of it. -/
def Failure.report (f : Failure) : String :=
  let head := "Error: " ++ f.stage.failure ++ "\n\nCaused by:\n"
  if f.fault.kind = .storage then
    head ++ "    0: " ++ cause "       " f.fault.message ++ "\n" ++
      "    1: " ++ cause "       " f.fault.detail ++ "\n"
  else head ++ "    " ++ cause "    " f.fault.message ++ "\n"

def filter (env : Environment) : Log.Filter :=
  ((env.text? "RUST_LOG").bind Log.Filter.parse?).getD .default

/-- How the environment asks for events to be shown: with colours, unless a variable
    that speaks against them is set to a text that is not empty. -/
def style (env : Environment) : Log.Style :=
  if (env.text? "NO_COLOR").any (· ≠ "") then .plain else .coloured

/-- The lines that are shown of events at a moment. -/
def shownLines (env : Environment) (now : Moment) (events : List Log.Event) : List String :=
  (events.filter (filter env).shows).flatMap (Log.Event.lines (style env) now.stamp)

/-- What a whole run of the program leaves behind. -/
structure Ending where
  exitCode : Nat
  log : List String
  report : String
  tree : FileTree

/-- Starts the program and, if it comes to listen, tells it to leave before any
    request. -/
def run (env : Environment) (now : Moment) (t : FileTree) (signal : Signal) : Ending :=
  let started := start env now t
  match started.result with
  | .error (failure, tree) => ⟨1, shownLines env now started.log, failure.report, tree⟩
  | .ok running =>
    ⟨0, shownLines env now (started.log ++ leave signal), "",
      running.service.depot.archive.tree⟩

end Launch

end BlobDepot
