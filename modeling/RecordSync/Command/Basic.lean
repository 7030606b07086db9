import RecordSync.Failure

/-! The commands of the program, and what may accompany each of them. -/

namespace RecordSync.Command

open RecordSync.Record

/-- A command with all that was said about it. -/
inductive Invocation where
  | init (force : Bool)
  | version
  | run (entities : List Entity) (ignoreInvalid : Bool) (batchSize maxBatches : Option Nat)
  | watch (entities : List Entity) (interval : Option Nat)
  | backfill (entities : List Entity) (fromStart : Bool) (batchSize : Option Nat)
  | status
  | showRow (entity : Entity) (externalId : String) (withEvents : Bool)
  | listQuarantine (withResolved : Bool)
  | resolve (id : Int) (comment : Option String)
  | replay (id : Int)
  deriving DecidableEq, Repr

/-- What holds for any command. Whatever is not given here has a standard value. -/
structure Circumstances where
  database : Option String
  feedDirectory : Option String
  config : Option String
  actor : Option String
  json : Bool
  dryRun : Bool
  quiet : Bool
  plain : Bool
  deriving DecidableEq, Repr

/-- Which kinds of record a run is for: one of them, or all in processing order. -/
def selection? (text : String) : Option (List Entity) :=
  if text = "all" then some Entity.all
  else (Entity.all.find? (·.name == text)).map ([·])

def entity? (text : String) : Option Entity :=
  Entity.all.find? (·.name == text)

/-- A window size that was asked for has to hold a record at least. -/
def positiveBatchSize : Option Nat → Except Failure (Option Nat)
  | some 0 => .error (.invalidArgument .emptyBatch)
  | batchSize => .ok batchSize

end RecordSync.Command
