import RecordSync.Change.Payload
import RecordSync.Fault

/-! Windows of a feed, and a feed in memory. There each kind of record has a sequence of its
own, from one. -/

namespace RecordSync.Feed

open RecordSync.Change RecordSync.Record

/-- One delivery at its place in the feed. Places grow along the feed. -/
structure Entry where
  sequence : Nat
  delivery : Delivery
  deriving DecidableEq, Repr

/-- Some entries, and the position once all of them are dealt with. It lies past
the last entry where the feed holds nothing of interest behind it. -/
structure Page where
  entries : List Entry
  next : Nat
  deriving DecidableEq, Repr

/-- The payloads of each kind, in the order of their arrival. -/
abbrev MemoryFeed := PerEntity (List String)

namespace MemoryFeed

def empty : MemoryFeed := .both []

def length (feed : MemoryFeed) (entity : Entity) : Nat := (feed.get entity).length

/-- Adds a payload; returns its place. -/
def push (feed : MemoryFeed) (entity : Entity) (payload : String) : Nat × MemoryFeed :=
  (feed.length entity + 1, feed.set entity (feed.get entity ++ [payload]))

def numbered (entity : Entity) (first : Nat) : List String → List Entry
  | [] => []
  | payload :: rest => ⟨first, .ofText entity.name payload⟩ :: numbered entity (first + 1) rest

def entries (feed : MemoryFeed) (entity : Entity) : List Entry :=
  numbered entity 1 (feed.get entity)

/-- At most `most` entries behind a position. -/
def fetch (feed : MemoryFeed) (entity : Entity) (position most : Nat) : Page :=
  let page := ((feed.entries entity).filter fun entry => position < entry.sequence).take most
  ⟨page, (page.getLast?.map (·.sequence)).getD position⟩

end MemoryFeed

end RecordSync.Feed
