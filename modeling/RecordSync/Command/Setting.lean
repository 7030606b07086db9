import RecordSync.Command.Basic
import RecordSync.Command.Machine
import RecordSync.Feed.Lines

/-! What is settled before a command starts: the machine, the manner of its
output, the actor, and where the store, the feed and the settings are. -/

namespace RecordSync.Command

open RecordSync.Feed RecordSync.Files RecordSync.Settings RecordSync.Text

structure Setting (m : Type → Type) where
  machine : Machine m
  environment : String → Option String
  circumstances : Circumstances
  /-- Output is for a program rather than for a reader. -/
  inJson : Bool
  styled : Bool

/-- The variables of the environment that count. -/
def variableNames : List String := [
  "HOME", "USER", "TRS_SYNC_DB", "TRS_SYNC_FEED_DIR", "TRS_SYNC_ACTOR", "TRS_SYNC_BATCH_SIZE",
  "TRS_SYNC_MAX_ATTEMPTS", "NO_COLOR", "CLICOLOR", "CLICOLOR_FORCE"]

/-- A variable that is set to more than blanks. -/
def telling? (environment : String → Option String) (name : String) : Option String :=
  (environment name).filter fun value => !(trim value).isEmpty

/-- Who acts: whoever was named, else the user of the machine. -/
def actorName (circumstances : Circumstances) (environment : String → Option String) : String :=
  (circumstances.actor.or (telling? environment "USER")).getD "trs-sync"

/-- A place under the program's directory in the user's home, if there is a home. -/
def standardPlace? (environment : String → Option String) (names : List String) : Option String :=
  ((environment "HOME").filter (!·.isEmpty)).map fun home =>
    (".trs-sync" :: names).foldl LineFeed.join home

namespace Setting

variable {m : Type → Type} [Monad m] (setting : Setting m)

def actor : String := actorName setting.circumstances setting.environment

def databasePath? : Option String :=
  setting.circumstances.database.or (standardPlace? setting.environment ["data", "trs-sync.db"])

def feedDirectory? : Option String :=
  setting.circumstances.feedDirectory.or (standardPlace? setting.environment ["feed"])

/-- The path of a store that somebody has made before. -/
def existingStore : Action m String := do
  match setting.databasePath? with
  | none => throw .notInitialized
  | some path =>
    if (← ask (setting.machine.look (.ofText path))).isPresent then return path
    else throw .notInitialized

def feedDirectory : Action m String := do
  match setting.feedDirectory? with
  | some path => return path
  | none => throw (.config (.reported "Could not determine feed directory"))

/-- The settings in force. -/
def settings : Action m Settings := do
  match setting.circumstances.config.or (standardPlace? setting.environment ["config.json"]) with
  | none => throw (.config (.reported "Could not determine home directory"))
  | some path =>
    let file ← ask (setting.machine.look (.ofText path))
    match Settings.load setting.circumstances.config file setting.environment with
    | .ok settings => return settings
    | .error fault => throw (.config fault)

end Setting

end RecordSync.Command
