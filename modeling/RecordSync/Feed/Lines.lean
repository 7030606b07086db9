import RecordSync.Feed.Basic
import RecordSync.Files.Path

/-! A feed in files, one for each kind of record: a line is an entry, and the
number of the line is its place. A blank line is passed over, and a line
without its newline may still be growing and is left alone.

The feed remembers where the last line it passed ended, and goes on from there
if that is no later than the position asked for. A source is either kind of feed
behind one way to read it. -/

namespace RecordSync.Feed

open RecordSync.Change RecordSync.Record

/-- The end of a line: its number and the bytes up to it. -/
structure Mark where
  sequence : Nat
  offset : Nat
  deriving DecidableEq, Repr, Inhabited

def Mark.top : Mark := ⟨0, 0⟩

structure LineFeed where
  directory : String
  files : PerEntity FileState
  marks : PerEntity Mark

namespace LineFeed

def ofDirectory (directory : String) : LineFeed :=
  ⟨directory, .both .missing, .both .top⟩

/-- A name inside a directory. -/
def join (directory name : String) : String :=
  if directory.isEmpty || directory.endsWith "/" then directory ++ name
  else directory ++ "/" ++ name

def fileName (entity : Entity) : String := entity.name ++ ".jsonl"

def path (feed : LineFeed) (entity : Entity) : String :=
  join feed.directory (fileName entity)

def newline : UInt8 := 10

/-- The lines that end in a newline, without it. -/
def completeLines (current : List UInt8) : List UInt8 → List (List UInt8)
  | [] => []
  | byte :: rest =>
    if byte = newline then current.reverse :: completeLines [] rest
    else completeLines (byte :: current) rest

/-- Space, tab, line feed, form feed and carriage return. -/
def isSpaceByte (byte : UInt8) : Bool :=
  byte == 32 || byte == 9 || byte == 10 || byte == 12 || byte == 13

/-- A line without the white space around it. -/
def trimLine (line : List UInt8) : List UInt8 :=
  ((line.dropWhile isSpaceByte).reverse.dropWhile isSpaceByte).reverse

/-- What has been gathered of a page: the entries newest first, the next
position, and the end of the last line that was passed. -/
structure Gathered where
  entries : List Entry
  next : Nat
  mark : Mark
  deriving DecidableEq, Repr

/-- One line taken into a page. Lines up to the position are only passed. -/
def takeLine (entity : Entity) (position : Nat) (gathered : Gathered) (line : List UInt8) :
    Gathered :=
  let sequence := gathered.mark.sequence + 1
  let passed := { gathered with mark := ⟨sequence, gathered.mark.offset + line.length + 1⟩ }
  if sequence ≤ position then passed
  else if (trimLine line).isEmpty then { passed with next := sequence }
  else
    { passed with
      next := sequence
      entries := ⟨sequence, .ofBytes entity.name (trimLine line)⟩ :: gathered.entries }

/-- Lines taken into a page until it is full. Blank lines behind its last entry
still belong to a page that is not full. -/
def gather (entity : Entity) (position most : Nat) (gathered : Gathered) :
    List (List UInt8) → Gathered
  | [] => gathered
  | line :: rest =>
    if position < gathered.mark.sequence + 1 ∧ gathered.entries.length = most then gathered
    else gather entity position most (takeLine entity position gathered line) rest

/-- The remembered mark if it is of use for a position in a file, else the top. -/
def startFor (mark : Mark) (position size : Nat) : Mark :=
  if mark.sequence ≤ position ∧ mark.offset ≤ size then mark else .top

/-- A page of a file's bytes, and the mark to remember. -/
def pageOf (entity : Entity) (mark : Mark) (position most : Nat) (bytes : List UInt8) :
    Page × Mark :=
  let start := startFor mark position bytes.length
  let gathered := gather entity position most ⟨[], position, start⟩
    (completeLines [] (bytes.drop start.offset))
  (⟨gathered.entries.reverse, gathered.next⟩, gathered.mark)

/-- At most `most` entries behind a position. A kind without a file has none. -/
def fetch (feed : LineFeed) (entity : Entity) (position most : Nat) :
    Except SyncFault (Page × LineFeed) :=
  match feed.files.get entity with
  | .missing => .ok (⟨[], position⟩, feed)
  | .directory => .error (.feed (.unreadable (feed.path entity) .isDirectory))
  | .bytes bytes =>
    let (page, mark) := pageOf entity (feed.marks.get entity) position most bytes
    .ok (page, { feed with marks := feed.marks.set entity mark })

end LineFeed

/-- Where changes come from. -/
inductive Source where
  | memory (feed : MemoryFeed)
  | lines (feed : LineFeed)

/-- A page from either kind of feed, and the feed afterwards. -/
def Source.fetch (source : Source) (entity : Entity) (position most : Nat) :
    Except SyncFault (Page × Source) :=
  match source with
  | .memory feed => .ok (feed.fetch entity position most, source)
  | .lines feed => (feed.fetch entity position most).map fun (page, feed) => (page, .lines feed)

end RecordSync.Feed
