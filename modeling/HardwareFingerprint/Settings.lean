import HardwareFingerprint.Engine
import HardwareFingerprint.Json.Shape

/-!
# Settings

The settings of a run: the service and how long to wait for it, the version from which records are
queried, a forced strategy, and the path of the command. Whatever a settings document leaves out
takes its default. Settings are valid if the service has a name, there is at least one attempt, and
the threshold is a version. Command-line values replace those of the document.
-/
namespace HardwareFingerprint

set_option autoImplicit false

structure Settings where
  service : String
  attempts : Fin (Numeral.countOf 32)
  intervalSecs : Fin (Numeral.countOf 64)
  threshold : String
  strategy : Option Strategy
  command : Option String
  deriving DecidableEq

/-- Values given on the command line. A strategy may be given as automatic, which forces none. -/
structure Overrides where
  strategy : Option (Option Strategy)
  attempts : Option (Fin (Numeral.countOf 32))
  deriving DecidableEq

namespace Settings

def byDefault : Settings where
  service := Policy.defaultService
  attempts := ⟨Policy.defaultAttempts, by decide⟩
  intervalSecs := ⟨Policy.defaultIntervalSecs, by decide⟩
  threshold := Selector.defaultThreshold.text
  strategy := none
  command := none

inductive Member where
  | service
  | attempts
  | intervalSecs
  | threshold
  | strategy
  | command
  deriving DecidableEq

namespace Member

/-- The name of the member in a document. -/
def text : Member → String
  | service => "service_name"
  | attempts => "readiness_attempts"
  | intervalSecs => "readiness_interval_secs"
  | threshold => "version_threshold"
  | strategy => "strategy"
  | command => "wmic_path"

abbrev Value : Member → Type
  | service => String
  | attempts => Fin (Numeral.countOf 32)
  | intervalSecs => Fin (Numeral.countOf 64)
  | threshold => String
  | strategy => Option Strategy
  | command => Option String

def reader : (m : Member) → Nat → Json.Reader m.Value
  | service => fun _ => Json.readString
  | attempts => fun _ => Json.readBelow (Numeral.countOf 32) "u32"
  | intervalSecs => fun _ => Json.readBelow (Numeral.countOf 64) "u64"
  | threshold => fun _ => Json.readString
  | strategy => fun depth => Json.orNull (Json.readChoice Strategy.choices depth)
  | command => fun _ => Json.orNull Json.readPath

/-- The member's value in some settings. -/
def value (s : Settings) : (m : Member) → m.Value
  | service => s.service
  | attempts => s.attempts
  | intervalSecs => s.intervalSecs
  | threshold => s.threshold
  | strategy => s.strategy
  | command => s.command

end Member

/-- The shape of a settings document: an absent member takes its default. -/
def shape : Json.Shape Member where
  name := Member.text
  Value := Member.Value
  reader := Member.reader
  absent := fun m => some (m.value byDefault)
  title := "EngineSettings"
  keys := [.service, .attempts, .intervalSecs, .threshold, .strategy, .command]

/-- The settings with the values of a document. -/
def ofContent : shape.Content → Settings
  | (service, attempts, intervalSecs, threshold, strategy, command, _) =>
    ⟨service, attempts, intervalSecs, threshold, strategy, command⟩

/-- The settings that a document gives, valid or not. -/
def read (document : String) : Except Json.Error Settings :=
  (shape.readDocument document).map ofContent

def toJson (s : Settings) : Json :=
  .object [
    ("service_name", .text s.service),
    ("readiness_attempts", .number (.natural s.attempts.val)),
    ("readiness_interval_secs", .number (.natural s.intervalSecs.val)),
    ("version_threshold", .text s.threshold),
    ("strategy", (s.strategy.map Strategy.toJson).getD .null),
    ("wmic_path", (s.command.map Json.text).getD .null)]

/-- How the log shows a value that may be missing. -/
def shownOption {α : Type} (shown : α → String) : Option α → String
  | none => "None"
  | some a => "Some(" ++ shown a ++ ")"

/-- How the log shows some settings. -/
def shown (s : Settings) : String :=
  "EngineSettings \x7b service_name: " ++ Text.quote s.service ++
    ", readiness_attempts: " ++ toString s.attempts.val ++
    ", readiness_interval_secs: " ++ toString s.intervalSecs.val ++
    ", version_threshold: " ++ Text.quote s.threshold ++
    ", strategy: " ++ shownOption Strategy.tag s.strategy ++
    ", wmic_path: " ++ shownOption (fun path => Bytes.quote (Bytes.ofText path)) s.command ++ " \x7d"

/-- The text of a settings document. -/
def write (s : Settings) : String :=
  s.toJson.compact

/-- The first thing that is not valid. -/
def validate (s : Settings) : Except Failure Unit :=
  if Text.isAllBlank s.service then
    .error (.invalidConfig "service_name" "must not be empty")
  else if s.attempts.val = 0 then
    .error (.invalidConfig "readiness_attempts" "must be at least 1")
  else match Version.parse s.threshold with
    | .error e => .error (.invalidConfig "version_threshold" e.message)
    | .ok _ => .ok ()

/-- The valid settings that a document gives. -/
def ofDocument (document : String) : Except Failure Settings := do
  let s ← (read document).mapError .jsonParse
  s.validate
  pure s

/-- The settings with the given values in place of their own. -/
def override (s : Settings) (o : Overrides) : Settings :=
  { s with
    strategy := o.strategy.getD s.strategy
    attempts := o.attempts.getD s.attempts }

/-- The settings with the given values in place of their own, if they are valid. -/
def withOverrides (s : Settings) (o : Overrides) : Except Failure Settings := do
  (s.override o).validate
  pure (s.override o)

def policy (s : Settings) : Policy :=
  ⟨s.service, s.attempts.val, 1000 * s.intervalSecs.val⟩

/-- The configuration of a run. A command that is not configured is found below the Windows
directory. -/
def engineConfig (s : Settings) (windowsDirectory : Option String) :
    Except Failure EngineConfig := do
  let selector ← Selector.ofThreshold s.threshold
  pure
    { readiness := s.policy
      selector := { selector with forced := s.strategy }
      command := s.command.getD (Path.command windowsDirectory) }

/-- The settings in a file that must be there. -/
def ofFile {σ : Type} (files : Files) (path : String) :
    Session σ (Except Failure Settings) :=
  match files.readText path with
  | .error p => pure (.error (.fileRead path p.message))
  | .ok document =>
    match ofDocument document with
    | .error e => pure (.error e)
    | .ok s => do
      Session.tell (.settingsLoaded path)
      pure (.ok s)

/-- The settings of a run: those in the given file, else those in the file at the usual place, else
the defaults. Without a configuration directory there is no usual place. -/
def load {σ : Type} (files : Files) (configDirectory : Option String) :
    Option String → Session σ (Except Failure Settings)
  | some path => ofFile files path
  | none =>
    match configDirectory.map Path.settingsUnder with
    | none => do
      Session.tell .settingsUnplaced
      pure (.ok byDefault)
    | some path => do
      if files.finds path then ofFile files path
      else
        Session.tell (.settingsAbsent path)
        pure (.ok byDefault)

end Settings

end HardwareFingerprint
