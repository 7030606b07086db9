import RecordSync.Command.Report
import RecordSync.Command.Setting

/-! The commands that make a store, look into it, and deal with its quarantine. -/

namespace RecordSync.Command

open RecordSync.Files RecordSync.Interchange RecordSync.Json RecordSync.Record RecordSync.Store

def programVersion : String := "0.1.0"
def schemaVersion : Nat := 1
def buildName : String := "dev"

variable {m : Type → Type} [Monad m]

namespace Setting

variable (setting : Setting m)

/-- Says a value to a program and lines to a reader. -/
def tell (value : Value) (lines : List String) : Action m Unit :=
  if setting.inJson then say value.render else sayAll lines

def version : Action m Unit :=
  setting.tell
    (.object [("version", .text programVersion), ("schema_version", natural schemaVersion),
      ("build", .text buildName)])
    ["trs-sync " ++ programVersion ++ " (schema v" ++ toString schemaVersion ++ ", " ++
      buildName ++ ")"]

def databasePath : Action m String := do
  match setting.databasePath? with
  | some path => return path
  | none => throw (.config (.reported "Could not determine database location"))

/-- Makes a store and the directory of the feed. A store that is there already
is kept. -/
def init (force : Bool) : Action m Unit := do
  let database ← setting.databasePath
  let directory ← setting.feedDirectory
  let path := Path.ofText database
  let existed := (← ask (setting.machine.look path)).isPresent
  if existed && !force then throw (.alreadyInitialized database)
  tryFiles (setting.machine.makeFolders path.parent)
  let _ ← setting.machine.openToRead database
  tryFiles (setting.machine.makeFolders (.ofText directory))
  setting.tell
    (.object [("database", .text database), ("feed_dir", .text directory),
      ("reinitialized", .bool existed)])
    [if existed then "Reapplied schema to existing database" else "Initialized trs-sync database",
      "  Database: " ++ database,
      "  Feed:     " ++ directory,
      "",
      "Next: run 'trs-sync run' to drain the feed."]

/-- The store that was made before, opened to be read. -/
def readStore : Action m Store := do
  setting.machine.openToRead (← setting.existingStore)

def status : Action m Unit := do
  let status := (← setting.readStore).status
  setting.tell (statusJson status) (Report.ofStatus setting.styled status)

/-- How many events of a row are shown. -/
def shownEvents : Nat := 20

def showRow (entity : Entity) (externalId : String) (withEvents : Bool) : Action m Unit := do
  let store ← setting.readStore
  match store.read entity externalId with
  | .error fault => throw (.sync fault)
  | .ok none => throw (.rowNotFound entity externalId)
  | .ok (some row) =>
    let events :=
      if withEvents then some (store.log.latest entity.name externalId (some shownEvents)) else none
    setting.tell
      (.object (("row", rowJson row) ::
        (events.map fun events => ("events", Value.array (events.map eventJson))).toList))
      (Report.ofRow setting.styled row ++ (events.map (Report.ofEvents setting.styled)).getD [])

def listQuarantine (withResolved : Bool) : Action m Unit := do
  let entries := (← setting.readStore).quarantine.list withResolved
  setting.tell
    (Value.object [("count", natural entries.length),
      ("entries", .array (entries.map quarantinedJson))]).sorted
    (Report.ofQuarantine setting.styled entries)

/-- Marks a quarantine entry as resolved without another try. -/
def resolve (id : Int) (comment : Option String) : Action m Unit := do
  let opened ← setting.machine.openStore (← setting.existingStore)
  let now ← ask setting.machine.now
  match opened.store.resolve ⟨setting.actor, now⟩ id comment with
  | none =>
    let _ ← setting.machine.keep opened opened.store
    throw (.quarantineNotFound id)
  | some (changed, store) =>
    let _ ← setting.machine.keep opened store
    setting.tell
      (Value.object [("id", integer id), ("resolved", .bool true), ("changed", .bool changed)]).sorted
      [if changed then "Resolved quarantine entry " ++ toString id
        else "Quarantine entry " ++ toString id ++ " was already resolved"]

/-- Tries a quarantined record again. -/
def replay (id : Int) : Action m Unit := do
  let opened ← setting.machine.openStore (← setting.existingStore)
  let now ← ask setting.machine.now
  match opened.store.replay setting.actor setting.actor id now with
  | .error failure =>
    let _ ← setting.machine.keep opened opened.store
    throw failure
  | .ok (report, store) =>
    let _ ← setting.machine.keep opened store
    setting.tell (replayJson report) [Report.ofReplay setting.styled report]

end Setting

end RecordSync.Command
