import HardwareFingerprint.Text.Quoted
import HardwareFingerprint.Category
import HardwareFingerprint.Service

/-!
# Log events

What a run tells about itself. Every kind of event has a level, a message, and fields that carry
what it is about.
-/
namespace HardwareFingerprint

set_option autoImplicit false

/-- Levels from the most severe to the least. -/
inductive Level where
  | error
  | warn
  | info
  | debug
  | trace
  deriving DecidableEq, Repr

namespace Level

def name : Level → String
  | error => "error"
  | warn => "warn"
  | info => "info"
  | debug => "debug"
  | trace => "trace"

def all : List Level :=
  [error, warn, info, debug, trace]

/-- The level with a name. -/
def ofName? (name : String) : Option Level :=
  all.find? fun l => l.name = name

/-- How much has to be recorded for events of the level to be among it. -/
def rank : Level → Nat
  | error => 1
  | warn => 2
  | info => 3
  | debug => 4
  | trace => 5

/-- Are events of level `l` recorded when the log is kept up to `upTo`, if at all? -/
def isRecorded (upTo : Option Level) (l : Level) : Bool :=
  match upTo with
  | none => false
  | some u => l.rank ≤ u.rank

end Level

inductive Event where
  | waiting (service : String) (budgetSecs : Nat)
  | serviceReady (service : String)
  | notRunning (attempt : Nat) (state : ServiceState)
  | statusUnknown (attempt : Nat) (error : Failure)
  | gateClosed (error : Failure)
  | strategyForced (strategy : Strategy)
  | versionUnknown (error : Failure)
  | versionUnreadable (version : String) (error : Failure)
  | strategySelected (version threshold : String) (strategy : Strategy)
  | systemUnknown (error : Failure)
  | platformDetected (caption version : String) (sku : Nat)
  | commandStarted (program : String) (arguments : List String)
  | commandFailed (category : Category) (error : Failure)
  | recordMissing (cls : RecordClass) (error : Failure)
  | uuidRead (uuid : String)
  | categoryUnavailable (error : CategoryError)
  | interfaceFound (interface : String)
  | factUnavailable (key : String) (error : Failure)
  | collected (strategy : Strategy) (failed : Nat)
  | settingsAbsent (path : String)
  | settingsUnplaced
  | settingsLoaded (path : String)
  | settingsInForce (settings : String)
  deriving DecidableEq

namespace Event

def level : Event → Level
  | systemUnknown _ | commandFailed _ _ | recordMissing _ _ => .error
  | gateClosed _ | versionUnknown _ | versionUnreadable _ _ | categoryUnavailable _
  | factUnavailable _ _ => .warn
  | collected _ _ => .info
  | waiting _ _ | serviceReady _ | notRunning _ _ | statusUnknown _ _ | strategyForced _
  | strategySelected _ _ _ | platformDetected _ _ _ | commandStarted _ _ | interfaceFound _
  | settingsAbsent _ | settingsUnplaced | settingsLoaded _ | settingsInForce _ => .debug
  | uuidRead _ => .trace

def message : Event → String
  | waiting _ _ => "Waiting for instrumentation service to be ready"
  | serviceReady _ => "Instrumentation service is ready to be queried"
  | notRunning _ _ => "Service not running"
  | statusUnknown _ _ => "Failed to get service status"
  | gateClosed _ => "Instrumentation service cannot be queried for hardware hash"
  | strategyForced _ => "Using configured access strategy"
  | versionUnknown _ => "Failed to determine platform version, using command-output"
  | versionUnreadable _ _ => "Unparseable platform version, using command-output"
  | strategySelected _ _ _ => "Selected access strategy"
  | systemUnknown _ => "Failed to fetch OS details"
  | platformDetected _ _ _ => "Detected platform"
  | commandStarted _ _ => "Running command"
  | commandFailed _ _ => "Command failed"
  | recordMissing _ _ => "Failed to fetch WMI object"
  | uuidRead _ => "Current UUID value"
  | categoryUnavailable _ => "Hardware category unavailable"
  | interfaceFound _ => "Resolving MAC address of primary interface"
  | factUnavailable _ _ => "Host identity fact unavailable"
  | collected _ _ => "Collected hardware fingerprint"
  | settingsAbsent path =>
    "No settings file found at " ++ Bytes.quote (Bytes.ofText path) ++ ", using defaults"
  | settingsUnplaced => "No config directory available, using default settings"
  | settingsLoaded path => "Loaded settings from " ++ Bytes.quote (Bytes.ofText path)
  | settingsInForce _ => "Effective settings"

def fields : Event → List (String × String)
  | waiting service budgetSecs => [("service", service), ("budget_secs", toString budgetSecs)]
  | serviceReady service => [("service", service)]
  | notRunning attempt state => [("attempt", toString attempt), ("state", state.name)]
  | statusUnknown attempt error => [("attempt", toString attempt), ("error", error.message)]
  | gateClosed error => [("error", error.message)]
  | strategyForced strategy => [("strategy", strategy.name)]
  | versionUnknown error => [("error", error.message)]
  | versionUnreadable version error => [("version", version), ("error", error.message)]
  | strategySelected version threshold strategy =>
    [("version", version), ("threshold", threshold), ("strategy", strategy.name)]
  | systemUnknown error => [("error", error.message)]
  | platformDetected caption version sku =>
    [("caption", caption), ("version", version), ("sku", toString sku)]
  | commandStarted program arguments =>
    [("program", program), ("args", Text.quoteList arguments)]
  | commandFailed category error => [("category", category.name), ("error", error.message)]
  | recordMissing cls error => [("class", cls.name), ("error", error.message)]
  | uuidRead uuid => [("uuid", uuid)]
  | categoryUnavailable e =>
    [("category", e.category.name), ("key", e.category.key), ("strategy", e.strategy.name),
      ("error", e.cause.message)]
  | interfaceFound interface => [("interface", interface)]
  | factUnavailable key error => [("key", key), ("error", error.message)]
  | collected strategy failed => [("strategy", strategy.name), ("failed", toString failed)]
  | settingsAbsent _ | settingsUnplaced | settingsLoaded _ => []
  | settingsInForce settings => [("settings", settings)]

end Event

end HardwareFingerprint
