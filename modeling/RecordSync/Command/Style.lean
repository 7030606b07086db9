/-! Text on a terminal: weight, underline and colour by escape sequences. -/

namespace RecordSync.Command

inductive Effect where
  | bold
  | dimmed
  | underlined
  | red
  | green
  | yellow
  | blue
  deriving DecidableEq, Repr

def Effect.code : Effect → String
  | .bold => "1"
  | .dimmed => "2"
  | .underlined => "4"
  | .red => "31"
  | .green => "32"
  | .yellow => "33"
  | .blue => "34"

def escapeStart : List Char := ['\x1b', '[']

/-- The sequence that ends every effect. -/
def reset : List Char := escapeStart ++ ['0', 'm']

/-- The sequence that starts effects. -/
def starting (effects : List Effect) : List Char :=
  escapeStart ++ (";".intercalate (effects.map Effect.code)).toList ++ ['m']

/-- Starts effects again wherever a text ends them. Right behind the sequence
that ends them the given number of characters is already known to be part of it. -/
def renew (again : List Char) : Nat → List Char → List Char
  | _, [] => []
  | 1, c :: rest => c :: again ++ renew again 0 rest
  | known + 2, c :: rest => c :: renew again (known + 1) rest
  | 0, c :: rest =>
    c :: renew again (if reset.isPrefixOf (c :: rest) then reset.length - 1 else 0) rest

/-- A text with effects, if they are wanted at all. -/
def paint (wanted : Bool) (effects : List Effect) (text : String) : String :=
  if wanted then
    String.ofList (starting effects ++ renew (starting effects) 0 text.toList ++ reset)
  else text

/-- Whether effects are wanted on a terminal. An order against them counts most,
then the variable that forces them, then the one that forbids them. -/
def wantsEffects (plain isTerminal : Bool) (environment : String → Option String) : Bool :=
  let isOn (value : String) : Bool := value != "0"
  if plain then false
  else if (environment "CLICOLOR_FORCE").any isOn then true
  else if (environment "NO_COLOR").isSome then false
  else (environment "CLICOLOR").all isOn && isTerminal

end RecordSync.Command
