import HardwareFingerprint.Settings

/-!
# The command line

Options take a value, in the next argument or after an equals sign; flags take none. An option and a
flag may be given once. A value in the next argument is looked at when the argument after it is
understood, so an argument that nobody knows is refused before a value that is wrong. Nothing else
may stand on the command line.
-/
namespace HardwareFingerprint

set_option autoImplicit false

/-- The strategy that a command line asks for. -/
inductive StrategyChoice where
  | auto
  | forced (strategy : Strategy)
  deriving DecidableEq

namespace StrategyChoice

/-- The names of the choices, which are matched letter by letter. -/
def choices : List (String × StrategyChoice) :=
  ("auto", auto) :: Strategy.all.map fun s => (s.name, forced s)

/-- The strategy to force, if any. -/
def strategy? : StrategyChoice → Option Strategy
  | auto => none
  | forced s => some s

end StrategyChoice

/-- A command line that asks for a run. -/
structure CommandLine where
  settings : Option String
  strategy : Option StrategyChoice
  attempts : Option (Fin (Numeral.countOf 32))
  logLevel : Option String
  pretty : Bool
  showFailures : Bool
  deriving DecidableEq

namespace CommandLine

/-- Nothing is given. -/
def bare : CommandLine :=
  ⟨none, none, none, none, false, false⟩

/-- Why a command line does not ask for a run: it asks for the help or the version instead, or it is
wrong. -/
inductive Refusal where
  | help
  | version
  | unknownArgument
  | missingOrUnlistedValue
  | unreadableValue
  | repeatedArgument
  | unwantedValue
  deriving DecidableEq

inductive Valued where
  | settings
  | strategy
  | attempts
  | logLevel
  deriving DecidableEq

inductive Flag where
  | pretty
  | showFailures
  | help
  | version
  deriving DecidableEq

def valuedNames : List (String × Valued) :=
  [("settings", .settings), ("strategy", .strategy), ("attempts", .attempts),
    ("log-level", .logLevel)]

def flagNames : List (String × Flag) :=
  [("pretty", .pretty), ("show-failures", .showFailures), ("help", .help), ("version", .version)]

/-- The flags that have a letter. -/
def flagLetters : List (Char × Flag) :=
  [('h', .help), ('V', .version)]

/-- The command line with the value of an option. -/
def withValue (c : CommandLine) (option : Valued) (value : String) : Except Refusal CommandLine :=
  match option with
  | .settings =>
    if c.settings.isSome then .error .repeatedArgument
    else if value.isEmpty then .error .missingOrUnlistedValue
    else .ok { c with settings := some value }
  | .strategy =>
    if c.strategy.isSome then .error .repeatedArgument
    else match StrategyChoice.choices.lookup value with
      | some choice => .ok { c with strategy := some choice }
      | none => .error .missingOrUnlistedValue
  | .attempts =>
    if c.attempts.isSome then .error .repeatedArgument
    else match Numeral.readSigned (Numeral.countOf 32) value.toList with
      | some n => .ok { c with attempts := some n }
      | none => .error .unreadableValue
  | .logLevel =>
    if c.logLevel.isSome then .error .repeatedArgument
    else .ok { c with logLevel := some value }

/-- The command line with a flag. -/
def withFlag (c : CommandLine) : Flag → Except Refusal CommandLine
  | .pretty => if c.pretty then .error .repeatedArgument else .ok { c with pretty := true }
  | .showFailures =>
    if c.showFailures then .error .repeatedArgument else .ok { c with showFailures := true }
  | .help => .error .help
  | .version => .error .version

/-- How far the arguments have been read: what is given, and the last option whose value stands in
an argument of its own and has not been looked at. -/
structure Reading where
  given : CommandLine
  pending : Option (Valued × Option String)

/-- What is given when the value of the last option is looked at. -/
def Reading.settle (r : Reading) : Except Refusal CommandLine :=
  match r.pending with
  | none => .ok r.given
  | some (_, none) => .error .missingOrUnlistedValue
  | some (option, some value) => r.given.withValue option value

/-- Reads an argument that starts with two hyphens, given its name and the value after the equals
sign. -/
def Reading.long (r : Reading) (name : String) (value : Option String) : Except Refusal Reading :=
  match valuedNames.lookup name with
  | some option => do
    let given ← r.settle
    match value with
    | some v => pure ⟨← given.withValue option v, none⟩
    | none => pure ⟨given, some (option, none)⟩
  | none =>
    match flagNames.lookup name with
    | none => .error .unknownArgument
    | some flag =>
      if value.isSome then .error .unwantedValue
      else do
        let given ← r.settle
        pure ⟨← given.withFlag flag, none⟩

/-- Reads the letters of an argument that starts with one hyphen. -/
def Reading.letters (r : Reading) : List Char → Except Refusal Reading
  | [] => .ok r
  | c :: cs =>
    match flagLetters.lookup c with
    | none => .error .unknownArgument
    | some flag => do
      let given ← r.settle
      Reading.letters ⟨← given.withFlag flag, none⟩ cs

/-- Reads any other argument: the value of the option before it, and nothing else. -/
def Reading.value (r : Reading) (arg : String) : Except Refusal Reading :=
  match r.pending with
  | some (option, none) => .ok { r with pending := some (option, some arg) }
  | _ => .error .unknownArgument

/-- The name of a long argument and the value after its first equals sign. -/
def splitLong (cs : List Char) : String × Option String :=
  let name := String.ofList (cs.takeWhile (· != '='))
  match cs.dropWhile (· != '=') with
  | _ :: value => (name, some (String.ofList value))
  | [] => (name, none)

/-- Reads one argument. -/
def Reading.step (r : Reading) (arg : String) : Except Refusal Reading :=
  match arg.toList with
  | '-' :: '-' :: cs =>
    let (name, value) := splitLong cs
    r.long name value
  | '-' :: c :: cs => r.letters (c :: cs)
  | _ => r.value arg

/-- Reads the arguments. Two hyphens alone end the options, and nothing may follow them. -/
def Reading.all (r : Reading) : List String → Except Refusal CommandLine
  | [] => r.settle
  | "--" :: rest => if rest.isEmpty then r.settle else .error .unknownArgument
  | arg :: rest => do
    let r ← r.step arg
    Reading.all r rest

/-- The command line that the arguments give. -/
def parse (arguments : List String) : Except Refusal CommandLine :=
  Reading.all ⟨bare, none⟩ arguments

/-- The values that replace those of the settings. -/
def overrides (c : CommandLine) : Overrides where
  strategy := c.strategy.map StrategyChoice.strategy?
  attempts := c.attempts

end CommandLine

end HardwareFingerprint
