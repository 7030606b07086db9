import RecordSync.Command.Program
import Std.Async.Signal
import Std.Time.DateTime.Timestamp

/-! The program on a real machine. Everything that it decides is decided
elsewhere; here are only the files, the clock, the streams, and the interrupt
that ends a watch. -/

namespace RecordSync.Main

open RecordSync.Calendar RecordSync.Command RecordSync.Files
open Std.Async (AsyncTask Signal)

/-- A path as the operating system takes it. -/
def located (path : Path) := do
  return (← IO.currentDir) / path.text

def osText (details : String) (code : UInt32) : FileFault :=
  if code = 36 then .nameTooLong
  else .reported (details ++ " (os error " ++ toString code ++ ")")

def faultOf : IO.Error → FileFault
  | .alreadyExists .. => .exists
  | .noFileOrDirectory .. => .missing
  | .inappropriateType _ code details =>
    if code = 20 then .notDirectory else if code = 21 then .isDirectory else osText details code
  | .permissionDenied _ code details => osText details code
  | .resourceExhausted _ code details => osText details code
  | .invalidArgument _ code details => osText details code
  | .otherError code details => osText details code
  | error => .reported (toString error)

def attempt (action : IO Unit) : IO (Except FileFault Unit) := do
  match ← action.toBaseIO with
  | .ok () => return .ok ()
  | .error error => return .error (faultOf error)

def look (path : Path) : IO FileState := do
  let place ← located path
  match ← place.metadata.toBaseIO with
  | .error _ => return .missing
  | .ok metadata =>
    match metadata.type with
    | .dir => return .directory
    | _ => return .bytes (← IO.FS.readBinFile place).toList

def storeAt (path : Path) : IO (Option Store) := do
  match ← look path with
  | .bytes bytes => return Store.ofBytes? bytes
  | _ => return none

/-- A file takes its place only when all of it is written. -/
def write (path : Path) (content : Content) : IO (Except FileFault Unit) := do
  let place ← located path
  let draft ← located (path.beside ".new")
  attempt do
    IO.FS.writeBinFile draft ⟨(bytesIn content).toArray⟩
    IO.FS.rename draft place

def machine : Machine IO where
  look := look
  storeAt := storeAt
  makeFolder path := do attempt (IO.FS.createDir (← located path))
  write := write
  remove path := do IO.FS.removeFile (← located path)
  now := return .ofMillis (← Std.Time.Timestamp.now).toMillisecondsSinceUnixEpoch.val
  randomBytes := return (← IO.getRandomBytes 16).toList

/-- The variables that count, as they are set now. -/
def readEnvironment : IO (String → Option String) := do
  let known ← variableNames.mapM fun name => return (name, ← IO.getEnv name)
  return fun name => (known.lookup name).join

def deliver (reply : Reply) : IO Unit := do
  let output ← IO.getStdout
  let errors ← IO.getStderr
  output.putStr reply.output
  output.flush
  errors.putStr reply.errors
  errors.flush

/-- Sleeps in short turns, and returns early on an interrupt. Says whether there
was one. -/
def rest (interrupt : AsyncTask Int) : Nat → IO Bool
  | 0 => return (← interrupt.getState) == .finished
  | turns + 1 => do
    if (← interrupt.getState) == .finished then return true
    IO.sleep 100
    rest interrupt turns

/-- The runs of a watch after its first, until it fails or is interrupted. -/
partial def keepWatching (interrupt : AsyncTask Int) (setting : Setting IO) (watch : Watch) :
    IO UInt32 := do
  if ← rest interrupt (watch.seconds * 10) then return 0
  let (reply, next) ← setting.goOn watch
  deliver reply
  match next with
  | some watch => keepWatching interrupt setting watch
  | none => return reply.status.toUInt32

def perform (setting : Setting IO) (command : Invocation) : IO UInt32 := do
  match command with
  | .watch .. =>
    let interrupt ← (← Signal.Waiter.mk .sigint true).wait
    let (reply, watch) ← setting.answer (setting.perform command)
    deliver reply
    match watch with
    | some watch => keepWatching interrupt setting watch
    | none => return reply.status.toUInt32
  | command =>
    let (reply, _) ← setting.answer (setting.perform command)
    deliver reply
    return reply.status.toUInt32

/-- The program. What the machine itself refuses ends it with a report. -/
def run (words : List String) : IO UInt32 := do
  let isTerminal ← (← IO.getStdout).isTty
  match interpret machine (← readEnvironment) isTerminal words with
  | .error reply =>
    deliver reply
    return reply.status.toUInt32
  | .ok (setting, command) =>
    match ← (perform setting command).toBaseIO with
    | .ok status => return status
    | .error error =>
      let reply := setting.reply (some (.other (toString error))) ""
      deliver reply
      return reply.status.toUInt32

end RecordSync.Main

def main (words : List String) : IO UInt32 :=
  RecordSync.Main.run words
