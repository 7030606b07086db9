import RecordSync.Command.Basic
import RecordSync.Number.Word
import RecordSync.Text.Numeral

/-! The words of the command line: which commands there are, and which options
and places each of them has. -/

namespace RecordSync.Command

open RecordSync.Text

/-- A point in the tree of commands. Two of them only lead on to others, and
those two can be asked for help. -/
inductive Section where
  | top
  | init
  | version
  | run
  | watch
  | backfill
  | status
  | showRow
  | quarantine
  | listQuarantine
  | resolve
  | replay
  | help
  deriving DecidableEq, Repr

/-- What an option takes: nothing, once or any number of times, or one value. -/
inductive Taking where
  | nothing
  | anyNumber
  | value (accepts : String → Bool)

structure OptionRule where
  name : String
  letter : Option Char
  taking : Taking

def flag (name : String) : OptionRule := ⟨name, none, .nothing⟩

def valued (name : String) (accepts : String → Bool) : OptionRule := ⟨name, none, .value accepts⟩

/-- A path is never empty. -/
def isPath (text : String) : Bool := !text.isEmpty

def isAnything (_ : String) : Bool := true

def word? (text : String) : Option Nat := readUnsigned Number.word64 text
def signedWord? (text : String) : Option Int := readSigned Number.signed64 text

def isWord (text : String) : Bool := (word? text).isSome
def isSignedWord (text : String) : Bool := (signedWord? text).isSome
def isEntity (text : String) : Bool := (entity? text).isSome
def isSelection (text : String) : Bool := (selection? text).isSome

/-- The options that may stand at any section. -/
def sharedOptions : List OptionRule := [
  valued "db" isPath,
  valued "feed-dir" isPath,
  valued "config" isPath,
  valued "actor" isAnything,
  flag "json",
  flag "dry-run",
  ⟨"verbose", some 'v', .anyNumber⟩,
  ⟨"quiet", some 'q', .nothing⟩,
  flag "no-color"]

namespace Section

def commands : Section → List (String × Section)
  | .top => [("init", .init), ("version", .version), ("run", .run), ("watch", .watch),
      ("backfill", .backfill), ("status", .status), ("show", .showRow), ("quarantine", .quarantine)]
  | .quarantine => [("list", .listQuarantine), ("resolve", .resolve), ("replay", .replay)]
  | _ => []

def ownOptions : Section → List OptionRule
  | .init => [flag "force"]
  | .run => [valued "entity" isSelection, flag "ignore-invalid", valued "batch-size" isWord,
      valued "max-batches" isWord]
  | .watch => [valued "entity" isSelection, valued "interval" isWord]
  | .backfill => [valued "entity" isSelection, flag "from-start", valued "batch-size" isWord]
  | .showRow => [flag "events"]
  | .listQuarantine => [flag "all"]
  | .resolve => [valued "comment" isAnything]
  | _ => []

def options (here : Section) : List OptionRule :=
  here.ownOptions ++ sharedOptions

/-- The places of a command, by what each of them accepts. -/
def places : Section → List (String → Bool)
  | .showRow => [isEntity, isAnything]
  | .resolve => [isSignedWord]
  | .replay => [isSignedWord]
  | _ => []

def command? (here : Section) (word : String) : Option Section :=
  (here.commands.find? (·.1 == word)).map (·.2)

/-- The word that asks for help wherever there are commands. -/
def helpWord : String := "help"

def offersHelp (here : Section) : Bool := !here.commands.isEmpty

/-- What help can be asked about: the commands, and help itself. -/
def topic? (here : Section) (word : String) : Option Section :=
  (here.command? word).or (if word = helpWord ∧ here.offersHelp then some .help else none)

def named? (here : Section) (name : String) : Option OptionRule :=
  here.options.find? (·.name == name)

def lettered? (here : Section) (letter : Char) : Option OptionRule :=
  here.options.find? (·.letter == some letter)

end Section

end RecordSync.Command
