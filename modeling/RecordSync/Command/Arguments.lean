import RecordSync.Command.Grammar

/-! The command line read word by word.

A word is the value that the option before it waits for, or a command, or one
or more options, or it takes the next place. Shared options may be given anew
at each section; the innermost counts, and any of them counts before the
environment. Once help is asked for, all words name what it is about. -/

namespace RecordSync.Command

open RecordSync.Record

/-- Why the words make no command. -/
inductive UsageFault where
  | unexpected (word : String)
  | withoutValue (option : String)
  | surplusValue (option : String)
  | badValue (subject value : String)
  | repeated (option : String)
  | commandMissing
  | argumentMissing
  deriving DecidableEq, Repr

def UsageFault.message : UsageFault → String
  | .unexpected word => "error: unexpected argument '" ++ word ++ "'"
  | .withoutValue option => "error: a value is required for '--" ++ option ++ "'"
  | .surplusValue option => "error: '--" ++ option ++ "' takes no value"
  | .badValue subject value => "error: invalid value '" ++ value ++ "' for " ++ subject
  | .repeated option => "error: '--" ++ option ++ "' cannot be used multiple times"
  | .commandMissing => "error: a command is required"
  | .argumentMissing => "error: a required argument is missing"

/-- What ends the reading before all words are read. -/
inductive Ending where
  | usage (fault : UsageFault)
  | help
  | version
  deriving DecidableEq, Repr

/-- The options given at one section, newest first, each with its value. -/
abbrev Given := List (String × String)

/-- The words read so far. Outer sections come innermost first. After two bare
dashes every word takes a place. -/
structure Scan where
  here : Section
  given : Given
  outer : List Given
  placed : List String
  awaiting : Option OptionRule
  literal : Bool
  asking : Bool

namespace Scan

def start : Scan := ⟨.top, [], [], [], none, false, false⟩

def refuse {α : Type} (fault : UsageFault) : Except Ending α := .error (.usage fault)

/-- Takes an option with its value in. Most may stand only once at a section. -/
def give (scan : Scan) (rule : OptionRule) (value : String) : Except Ending Scan :=
  let taken := .ok { scan with given := (rule.name, value) :: scan.given, awaiting := none }
  let again := scan.given.any (·.1 == rule.name)
  match rule.taking with
  | .anyNumber => taken
  | .nothing => if again then refuse (.repeated rule.name) else taken
  | .value accepts =>
    if !accepts value then refuse (.badValue ("'--" ++ rule.name ++ "'") value)
    else if again then refuse (.repeated rule.name)
    else taken

/-- An option by its name, with the value that is attached to it, if any. -/
def long (scan : Scan) (word name : String) (attached : Option String) : Except Ending Scan :=
  match scan.here.named? name with
  | some rule =>
    match rule.taking, attached with
    | .value _, some value => scan.give rule value
    | .value _, none => .ok { scan with awaiting := some rule }
    | _, some _ => refuse (.surplusValue name)
    | _, none => scan.give rule ""
  | none =>
    if attached.isSome then refuse (.unexpected word)
    else if name = "help" then .error .help
    else if name = "version" ∧ scan.here = .top then .error .version
    else refuse (.unexpected word)

/-- Options by their letters, one after the other. -/
def letters (word : String) : Scan → List Char → Except Ending Scan
  | scan, [] => .ok scan
  | scan, letter :: rest =>
    match scan.here.lettered? letter with
    | some rule =>
      match scan.give rule "" with
      | .ok scan => letters word scan rest
      | .error ending => .error ending
    | none =>
      if letter = 'h' then .error .help
      else if letter = 'V' ∧ scan.here = .top then .error .version
      else refuse (.unexpected word)

/-- A word that takes the next place. -/
def place (scan : Scan) (word : String) : Except Ending Scan :=
  match scan.here.places[scan.placed.length]? with
  | none => refuse (.unexpected word)
  | some accepts =>
    if accepts word then .ok { scan with placed := scan.placed ++ [word] }
    else refuse (.badValue "an argument" word)

def enter (scan : Scan) (next : Section) : Scan :=
  { scan with here := next, given := [], outer := scan.given :: scan.outer }

/-- A name and the value after its equals sign, if there is one. -/
def splitAttached (chars : List Char) : String × Option String :=
  let name := String.ofList (chars.takeWhile (· != '='))
  match chars.dropWhile (· != '=') with
  | [] => (name, none)
  | _ :: value => (name, some (String.ofList value))

/-- A word that stands for itself. -/
def free (scan : Scan) (word : String) : Except Ending Scan :=
  match word.toList with
  | ['-', '-'] => .ok { scan with literal := true }
  | '-' :: '-' :: chars =>
    let (name, attached) := splitAttached chars
    scan.long word name attached
  | '-' :: letter :: rest => letters word scan (letter :: rest)
  | _ => scan.place word

/-- A word that says what help is about. -/
def about (scan : Scan) (word : String) : Except Ending Scan :=
  match scan.here.topic? word with
  | some next => .ok { scan with here := next }
  | none => refuse (.unexpected word)

/-- One word. A word with a dash in front is never the value of the option
before it, save a bare dash. -/
def step (scan : Scan) (word : String) : Except Ending Scan :=
  match scan.awaiting with
  | some rule =>
    if word.startsWith "-" ∧ word ≠ "-" then refuse (.withoutValue rule.name)
    else scan.give rule word
  | none =>
    if scan.asking then scan.about word
    else if scan.literal then scan.place word
    else
      match scan.here.command? word with
      | some next => .ok (scan.enter next)
      | none =>
        if word = Section.helpWord ∧ scan.here.offersHelp then .ok { scan with asking := true }
        else scan.free word

/-- All sections that were entered, innermost first. -/
def levels (scan : Scan) : List Given := scan.given :: scan.outer

/-- The innermost value of an option. -/
def value? (scan : Scan) (name : String) : Option String :=
  scan.levels.findSome? (List.lookup name)

def has (scan : Scan) (name : String) : Bool := (scan.value? name).isSome

/-- The value of a shared option with a variable behind it. A variable that is
empty is refused for a path, unless every section has the option itself. -/
def valueOr (scan : Scan) (name : String) (accepts : String → Bool) (otherwise : Option String) :
    Except Ending (Option String) :=
  match otherwise with
  | none => .ok (scan.value? name)
  | some value =>
    if scan.levels.all (·.any (·.1 == name)) || accepts value then
      .ok ((scan.value? name).or (some value))
    else refuse (.badValue ("'--" ++ name ++ "'") value)

def circumstances (scan : Scan) (environment : String → Option String) :
    Except Ending Circumstances := do
  let database ← scan.valueOr "db" isPath (environment "TRS_SYNC_DB")
  let feedDirectory ← scan.valueOr "feed-dir" isPath (environment "TRS_SYNC_FEED_DIR")
  let actor ← scan.valueOr "actor" isAnything (environment "TRS_SYNC_ACTOR")
  return {
    database, feedDirectory, actor
    config := scan.value? "config"
    json := scan.has "json"
    dryRun := scan.has "dry-run"
    quiet := scan.has "quiet"
    plain := scan.has "no-color" }

/-- The kinds of record that were asked for. -/
def entities? (scan : Scan) : Option (List Entity) := (scan.value? "entity").bind selection?

def number? (scan : Scan) (name : String) : Option Nat := (scan.value? name).bind word?

/-- The command that was named, if nothing it needs is missing. -/
def command (scan : Scan) : Except Ending Invocation :=
  match scan.here, scan.placed with
  | .init, _ => .ok (.init (scan.has "force"))
  | .version, _ => .ok .version
  | .run, _ => .ok (.run (scan.entities?.getD Entity.all) (scan.has "ignore-invalid")
      (scan.number? "batch-size") (scan.number? "max-batches"))
  | .watch, _ => .ok (.watch (scan.entities?.getD Entity.all) (scan.number? "interval"))
  | .backfill, _ =>
    match scan.entities? with
    | some entities => .ok (.backfill entities (scan.has "from-start") (scan.number? "batch-size"))
    | none => refuse .argumentMissing
  | .status, _ => .ok .status
  | .showRow, [entity, externalId] =>
    match entity? entity with
    | some entity => .ok (.showRow entity externalId (scan.has "events"))
    | none => refuse (.badValue "an argument" entity)
  | .listQuarantine, _ => .ok (.listQuarantine (scan.has "all"))
  | .resolve, [id] =>
    match signedWord? id with
    | some id => .ok (.resolve id (scan.value? "comment"))
    | none => refuse .argumentMissing
  | .replay, [id] =>
    match signedWord? id with
    | some id => .ok (.replay id)
    | none => refuse .argumentMissing
  | .top, _ => refuse .commandMissing
  | .quarantine, _ => refuse .commandMissing
  | _, _ => refuse .argumentMissing

def finish (scan : Scan) (environment : String → Option String) :
    Except Ending (Circumstances × Invocation) := do
  if let some rule := scan.awaiting then refuse (.withoutValue rule.name)
  if scan.asking then throw .help
  let circumstances ← scan.circumstances environment
  let command ← scan.command
  return (circumstances, command)

end Scan

/-- The command that words and environment amount to. -/
def readArguments (words : List String) (environment : String → Option String) :
    Except Ending (Circumstances × Invocation) := do
  (← words.foldlM Scan.step Scan.start).finish environment

end RecordSync.Command
