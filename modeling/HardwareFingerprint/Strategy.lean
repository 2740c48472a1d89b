import HardwareFingerprint.Json.Writer
import HardwareFingerprint.Version

/-!
# Access strategies

A hardware category is read either from the text that a command prints or from a typed record. The
strategy follows from the platform's version: from a threshold on, records are queried. A forced
strategy is taken without looking at the platform.
-/
namespace HardwareFingerprint

set_option autoImplicit false

inductive Strategy where
  | commandOutput
  | structuredQuery
  deriving DecidableEq, Repr

namespace Strategy

def name : Strategy → String
  | commandOutput => "command-output"
  | structuredQuery => "structured-query"

/-- The name of the strategy where the log shows settings. -/
def tag : Strategy → String
  | commandOutput => "CommandOutput"
  | structuredQuery => "StructuredQuery"

def all : List Strategy :=
  [commandOutput, structuredQuery]

/-- The names of the strategies in a document. -/
def choices : List (String × Strategy) :=
  all.map fun s => (s.name, s)

/-- Every word that stands for a strategy, in lower case. -/
def words : List (String × Strategy) :=
  [("command-output", commandOutput), ("wmic", commandOutput),
    ("structured-query", structuredQuery), ("wql", structuredQuery)]

/-- The strategy that a word stands for, in any case and with blanks around it. -/
def parse (s : String) : Except Failure Strategy :=
  let word := Text.lower (Text.trim s)
  match words.lookup word with
  | some strategy => .ok strategy
  | none => .error (.invalidConfig "strategy" ("unknown access strategy " ++ Text.quote word))

def toJson (s : Strategy) : Json :=
  .text s.name

end Strategy

/-- How the strategy is chosen: by the version of the platform, unless one is forced. -/
structure Selector where
  threshold : Version
  forced : Option Strategy
  deriving DecidableEq

namespace Selector

/-- The version from which records are queried by default. -/
def defaultThreshold : Version :=
  ⟨[10, 0, 26100], "10.0.26100"⟩

/-- Nothing is forced, and the threshold is the default one. -/
def byDefault : Selector :=
  ⟨defaultThreshold, none⟩

/-- A selector for a threshold, with nothing forced. -/
def ofThreshold (threshold : String) : Except Failure Selector := do
  let version ← Version.parse threshold
  pure ⟨version, none⟩

/-- The strategy of a version, whatever is forced. -/
def ofVersion (s : Selector) (v : Version) : Strategy :=
  if s.threshold ≤ v then .structuredQuery else .commandOutput

/-- The strategy of a version given as a text. -/
def forVersion (s : Selector) (version : String) : Except Failure Strategy := do
  let v ← Version.parse version
  pure (s.ofVersion v)

end Selector

end HardwareFingerprint
