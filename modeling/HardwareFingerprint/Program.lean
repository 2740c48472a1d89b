import HardwareFingerprint.CommandLine
import HardwareFingerprint.LogFilter

/-!
# The program

The program reads its command line, sets up its log, loads the settings, applies what the command
line gives, and runs. It stops at once if the log cannot be set up. Only a Windows host has an
instrumentation service, so on any other system the run is refused once everything before it is in
order. A failure is reported with the stage at which it arose and with every failure beneath it.
-/
namespace HardwareFingerprint.Program

set_option autoImplicit false

/-- The name under which the program is called. -/
def name : String := "hwprint"

def version : String := "0.1.0"

/-- The first line of the help. -/
def about : String := "hwprint - Hardware fingerprint for Windows hosts"

/-- What the program finds around it. -/
structure Environment where
  files : Files
  configDirectory : Option String
  logFilter : Option String
  windowsDirectory : Option String
  system : String

/-- The refusal of a run on a system without an instrumentation service. -/
def refusal (system : String) : Failure :=
  .notSupported ("hardware fingerprinting requires Windows (running on " ++ system ++ ")")

/-- The stages at which a run can fail. -/
inductive Stage where
  | loading
  | overriding
  | configuring
  | collecting
  deriving DecidableEq

/-- What is said of a stage before its failure. -/
def Stage.label : Stage → Option String
  | .loading => some "Failed to load settings"
  | .overriding => some "Invalid settings"
  | .configuring => none
  | .collecting => some "Hardware fingerprint unavailable"

/-- A failure with the stage at which it arose. -/
structure StageFailure where
  stage : Stage
  failure : Failure
  deriving DecidableEq

/-- The stage, the failure and what lies beneath it, from the outside inwards. -/
def StageFailure.message (f : StageFailure) : String :=
  String.intercalate ": "
    (f.stage.label.toList ++ [f.failure.message] ++ f.failure.beneath.toList)

/-- A run refused for its system. Whatever the settings are, it never collects anything. -/
def collect (system : String) (_ : EngineConfig) : Except Failure Collection :=
  .error (refusal system)

/-- The run that a command line asks for. -/
def run {σ : Type} (env : Environment) (c : CommandLine) :
    Session σ (Except StageFailure Collection) := do
  match ← Settings.load env.files env.configDirectory c.settings with
  | .error e => pure (.error ⟨.loading, e⟩)
  | .ok loaded =>
    match loaded.withOverrides c.overrides with
    | .error e => pure (.error ⟨.overriding, e⟩)
    | .ok settings =>
      Session.tell (.settingsInForce settings.shown)
      match settings.engineConfig env.windowsDirectory with
      | .error e => pure (.error ⟨.configuring, e⟩)
      | .ok config =>
        match collect env.system config with
        | .error e => pure (.error ⟨.collecting, e⟩)
        | .ok collection => pure (.ok collection)

/-- What a process leaves behind: its exit code and its two outputs. -/
structure Exit where
  code : Nat
  output : String
  errors : String

/-- What is said of a log filter that is refused. If the filter cannot be cut into its parts, the
log cannot be set up at all. -/
def filterWarning? (c : CommandLine) (env : Environment) : Option String :=
  let filter := LogFilter.inForce c.logLevel env.logFilter
  match LogFilter.check filter with
  | .ok () => some ""
  | .error (.refused e) =>
    some ("Invalid log filter " ++ Text.quote filter ++ ": " ++ e.message ++ ", using " ++
      LogFilter.byDefault ++ "\n")
  | .error .cutCharacter => none

/-- What a run leaves behind. The fingerprint is the only thing on the output. -/
def report (c : CommandLine) (warning : String) : Except StageFailure Collection → Exit
  | .error f => ⟨1, "", warning ++ "Error: " ++ f.message ++ "\n"⟩
  | .ok collection =>
    ⟨0, collection.fingerprint.render c.pretty ++ "\n",
      warning ++ (if c.showFailures then collection.report else "")⟩

/-- The settings file that a run looks at: the one that its arguments name, else the usual one. -/
def settingsPath? (configDirectory : Option String) (arguments : List String) : Option String :=
  match CommandLine.parse arguments with
  | .ok c => c.settings.or (configDirectory.map Path.settingsUnder)
  | .error _ => none

/-- What a program leaves behind that stops before its log is set up. -/
def stopped : Exit :=
  ⟨101, "", ""⟩

/-- What the program leaves behind. -/
def outcome (env : Environment) (arguments : List String) : Exit :=
  match CommandLine.parse arguments with
  | .error .help => ⟨0, about ++ "\n", ""⟩
  | .error .version => ⟨0, name ++ " " ++ version ++ "\n", ""⟩
  | .error _ => ⟨2, "", ""⟩
  | .ok c =>
    match filterWarning? c env with
    | none => stopped
    | some warning => report c warning (Session.alone (run env c))

end HardwareFingerprint.Program
