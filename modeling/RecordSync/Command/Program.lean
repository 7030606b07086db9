import RecordSync.Command.Arguments
import RecordSync.Command.Inspect
import RecordSync.Command.Sync

/-! The program as a whole: words in, a reply out. A reply says what goes to
either stream and with which status the program ends. Only a watch goes on
after its first reply. -/

namespace RecordSync.Command

open RecordSync.Interchange RecordSync.Json

/-- Why a program did not do what it was asked. -/
inductive Trouble where
  | usage (fault : UsageFault)
  | failed (failure : Failure)
  deriving DecidableEq, Repr

structure Reply where
  output : String
  /-- What goes to the stream of errors. -/
  errors : String
  trouble : Option Trouble
  deriving DecidableEq, Repr

/-- The status of a program whose words make no command. -/
def usageStatus : Nat := 2

def Reply.status (reply : Reply) : Nat :=
  match reply.trouble with
  | none => 0
  | some (.usage _) => usageStatus
  | some (.failed failure) => failure.code.exitStatus

def helpText : String :=
  "Usage: trs-sync [OPTIONS] <COMMAND>\n\n" ++
  "Commands: init, version, run, watch, backfill, status, show, quarantine\n" ++
  "Options:  --db, --feed-dir, --config, --actor, --json, --dry-run, --verbose, --quiet, --no-color\n"

/-- The reply to words that make no command. -/
def Ending.reply : Ending → Reply
  | .usage fault => ⟨"", fault.message ++ "\n", some (.usage fault)⟩
  | .help => ⟨helpText, "", none⟩
  | .version => ⟨"trs-sync " ++ programVersion ++ "\n", "", none⟩

/-- A failure as it is reported; a reader may ask not to see it. -/
def failureReport (inJson quiet : Bool) (failure : Failure) : String :=
  if inJson then (failureJson failure).sorted.render ++ "\n"
  else if quiet then ""
  else
    "Error: " ++ failure.message ++
      ((failure.hint?.map fun hint => "\n  Hint: " ++ hint).getD "") ++ "\n"

variable {m : Type → Type} [Monad m]

namespace Setting

variable (setting : Setting m)

def reply (failure : Option Failure) (output : String) : Reply where
  output := output
  errors := (failure.map (failureReport setting.inJson setting.circumstances.quiet)).getD ""
  trouble := failure.map .failed

/-- Carries a command out. A watch is returned if it goes on. -/
def perform : Invocation → Action m (Option Watch)
  | .init force => do setting.init force; return none
  | .version => do setting.version; return none
  | .run entities ignoreInvalid batchSize maxBatches => do
    setting.run entities ignoreInvalid batchSize maxBatches
    return none
  | .watch entities interval => do return some (← setting.watch entities interval)
  | .backfill entities fromStart batchSize => do
    setting.backfill entities fromStart batchSize
    return none
  | .status => do setting.status; return none
  | .showRow entity externalId withEvents => do
    setting.showRow entity externalId withEvents
    return none
  | .listQuarantine withResolved => do setting.listQuarantine withResolved; return none
  | .resolve id comment => do setting.resolve id comment; return none
  | .replay id => do setting.replay id; return none

/-- The reply that an action gives, and the watch with which it goes on. -/
def answer (action : Action m (Option Watch)) : m (Reply × Option Watch) := do
  let (result, output) ← action.run.run ""
  match result with
  | .ok watch => return (setting.reply none output, watch)
  | .error failure => return (setting.reply (some failure) output, none)

/-- The next run of a watch. -/
def goOn (watch : Watch) : m (Reply × Option Watch) :=
  setting.answer (do return some (← setting.watchOnce watch))

end Setting

/-- What words amount to under an environment: a command and its setting, or a
reply at once. Output that is not for a terminal is for a program. -/
def interpret (machine : Machine m) (environment : String → Option String) (isTerminal : Bool)
    (words : List String) : Except Reply (Setting m × Invocation) :=
  match readArguments words environment with
  | .error ending => .error ending.reply
  | .ok (circumstances, command) => .ok ({
      machine, environment, circumstances
      inJson := circumstances.json || !isTerminal
      styled := wantsEffects circumstances.plain isTerminal environment }, command)

/-- The program up to its first reply. -/
def start (machine : Machine m) (environment : String → Option String) (isTerminal : Bool)
    (words : List String) : m (Reply × Option (Setting m × Watch)) := do
  match interpret machine environment isTerminal words with
  | .error reply => return (reply, none)
  | .ok (setting, command) =>
    let (reply, watch) ← setting.answer (setting.perform command)
    return (reply, watch.map (setting, ·))

end RecordSync.Command
