import RecordSync.Command.Report
import RecordSync.Command.Setting
import RecordSync.Json.Text
import RecordSync.Run.Drain

/-! The commands that bring the store up to date: one run over the feed, a bulk
load, and the watch, which is one run after the other.

A run that its own policy stopped is reported like any other and then counts as
a failure. Each run has a name: a random one, in the form of a version 4 UUID. -/

namespace RecordSync.Command

open RecordSync.Feed RecordSync.Files RecordSync.Interchange RecordSync.Json RecordSync.Record
open RecordSync.Run RecordSync.Settings

/-- Bytes with the marks of the version and the variant set. -/
def marked (bytes : List UInt8) : List UInt8 :=
  (bytes.modify 6 fun byte => byte % 16 + 64).modify 8 fun byte => byte % 64 + 128

def hexByte (byte : UInt8) : List Char :=
  [hexChar (byte.toNat / 16), hexChar (byte.toNat % 16)]

/-- Bytes in hexadecimal, with hyphens before the groups. -/
def grouped (place : Nat) : List UInt8 → List Char
  | [] => []
  | byte :: rest =>
    (if [4, 6, 8, 10].contains place then ['-'] else []) ++ hexByte byte ++ grouped (place + 1) rest

/-- The name that sixteen random bytes give. -/
def runIdText (bytes : List UInt8) : String :=
  String.ofList (grouped 0 (marked bytes))

/-- What is settled before the first run of a command. -/
structure Ground where
  database : String
  feed : LineFeed
  settings : Settings

/-- A watch between two runs. The feed remembers where it stopped reading. -/
structure Watch where
  database : String
  feed : LineFeed
  entities : List Entity
  options : Options
  seconds : Nat

variable {m : Type → Type} [Monad m] {α : Type}

namespace Setting

variable (setting : Setting m)

def ground : Action m Ground := do
  let database ← setting.existingStore
  let directory ← setting.feedDirectory
  let settings ← setting.settings
  return ⟨database, .ofDirectory directory, settings⟩

/-- The options of a run that was asked for at the command line. -/
def options (settings : Settings) (ignoreInvalid : Bool) (batchSize : Option Nat) : Options :=
  { settings.options with
    batchSize := batchSize.getD settings.batchSize
    ignoreInvalid
    dryRun := setting.circumstances.dryRun }

/-- The feed with the files that are there now. -/
def refresh (feed : LineFeed) : Action m LineFeed := do
  let contact ← ask (setting.machine.look (.ofText (feed.path .contact)))
  let induction ← ask (setting.machine.look (.ofText (feed.path .induction)))
  return { feed with files := ⟨contact, induction⟩ }

/-- Work on an open store. Even if it ends with a fault, what it wrote is kept.
All of it happens at one reading of the clock. -/
def carryOut (opened : Opened) (feed : LineFeed) (work : Work Calendar.Instant α) :
    Action m (α × Opened × LineFeed) := do
  let now ← ask setting.machine.now
  let (result, desk) := work.run ⟨opened.store, .start, .lines feed, now⟩
  let opened ← setting.machine.keep opened desk.store
  match result, desk.source with
  | .ok value, .lines feed => return (value, opened, feed)
  | .ok value, .memory _ => return (value, opened, feed)
  | .error fault, _ => throw (.sync fault)

def worker (cursors : CursorPlace) (options : Options) : Worker Calendar.Instant :=
  ⟨quiet, setting.actor, cursors, options⟩

def reportTallies (tallies : List Tally) : Action m Unit := do
  if setting.inJson then
    let results ← tallies.mapM fun tally => do
      let runId := runIdText (← ask setting.machine.randomBytes)
      return Value.object (("run_id", .text runId) :: tallyMembers tally)
    say (Value.object [("results", .array results)]).sorted.render
  else
    sayAll (tallies.flatMap (Report.ofTally setting.styled))

/-- Reports a run; the first feed that the policy stopped makes it fail. -/
def conclude (tallies : List Tally) : Action m Unit := do
  setting.reportTallies tallies
  match tallies.find? (·.stop.isFatal) with
  | some tally => throw (.runStopped (tally.entity.name ++ ": " ++ tally.stop.text))
  | none => return ()

/-- Drains the feed once. -/
def run (entities : List Entity) (ignoreInvalid : Bool) (batchSize maxBatches : Option Nat) :
    Action m Unit := do
  let ground ← setting.ground
  let batchSize ← ExceptT.mk (pure (positiveBatchSize batchSize))
  let worker := setting.worker .store (setting.options ground.settings ignoreInvalid batchSize)
  let opened ← setting.machine.openStore ground.database
  let feed ← setting.refresh ground.feed
  let (tallies, _) ← setting.carryOut opened feed (worker.drainAll entities maxBatches)
  setting.conclude tallies

/-- Puts stored cursors back to the start and says so. -/
def rewind (opened : Opened) (feed : LineFeed) (worker : Worker Calendar.Instant)
    (entities : List Entity) : Action m Opened := do
  let (positions, opened, _) ← setting.carryOut opened feed (entities.mapM worker.resetCursor)
  if !setting.inJson then
    sayAll ((entities.zip positions).map fun (entity, position) =>
      "Rewound " ++ entity.name ++ " cursor from " ++ toString position ++ " to 0")
  return opened

/-- Loads in bulk: invalid records never stop it. A dry run from the start leaves
the stored cursors alone and takes cursors in memory, which are at the start. -/
def backfill (entities : List Entity) (fromStart : Bool) (batchSize : Option Nat) :
    Action m Unit := do
  let ground ← setting.ground
  let batchSize ← ExceptT.mk (pure (positiveBatchSize batchSize))
  let preview := fromStart && setting.circumstances.dryRun
  let worker := setting.worker (if preview then .memory else .store)
    (setting.options ground.settings true batchSize)
  let opened ← setting.machine.openStore ground.database
  let feed ← setting.refresh ground.feed
  let opened ←
    if fromStart && !preview then setting.rewind opened feed worker entities else pure opened
  let (tallies, _) ← setting.carryOut opened feed (worker.drainAll entities none)
  setting.conclude tallies

/-- One run of a watch. -/
def watchOnce (watch : Watch) : Action m Watch := do
  let opened ← setting.machine.openStore watch.database
  let feed ← setting.refresh watch.feed
  let (tallies, _, feed) ← setting.carryOut opened feed
    ((setting.worker .store watch.options).drainAll watch.entities none)
  setting.conclude tallies
  return { watch with feed }

/-- A watch after its first run. -/
def watch (entities : List Entity) (interval : Option Nat) : Action m Watch := do
  let ground ← setting.ground
  setting.watchOnce {
    database := ground.database
    feed := ground.feed
    entities
    options := setting.options ground.settings false none
    seconds := (interval.map (max 1)).getD ground.settings.pollInterval }

end Setting

end RecordSync.Command
