import HardwareFingerprint.Bytes.Basic
import HardwareFingerprint.Numeral.Decimal

/-!
# The instrumentation service

The states in which a service manager reports a service, and the policy by which a run waits for the
service to be running. Durations of a policy are in milliseconds.
-/
namespace HardwareFingerprint

set_option autoImplicit false

inductive ServiceState where
  | stopped
  | startPending
  | stopPending
  | running
  | continuePending
  | pausePending
  | paused
  deriving DecidableEq, Repr

namespace ServiceState

def name : ServiceState → String
  | stopped => "stopped"
  | startPending => "start pending"
  | stopPending => "stop pending"
  | running => "running"
  | continuePending => "continue pending"
  | pausePending => "pause pending"
  | paused => "paused"

def all : List ServiceState :=
  [stopped, startPending, stopPending, running, continuePending, pausePending, paused]

/-- The state with a name. -/
def ofName? (name : String) : Option ServiceState :=
  all.find? fun s => s.name = name

end ServiceState

/-- Which service is waited for, how often its state is asked, and how long each pause lasts. -/
structure Policy where
  service : String
  attempts : Nat
  interval : Nat
  deriving DecidableEq

namespace Policy

def defaultService : String := "Winmgmt"
def defaultAttempts : Nat := 5
def defaultIntervalSecs : Nat := 15

def byDefault : Policy :=
  ⟨defaultService, defaultAttempts, 1000 * defaultIntervalSecs⟩

/-- The longest time that the pauses can take, in milliseconds. -/
def budget (p : Policy) : Nat :=
  p.interval * p.attempts

/-- A duration has fewer than `2 ^ 64` whole seconds. -/
def secsBound : Nat := Numeral.countOf 64

/-- The whole seconds of the budget, if it is a duration. -/
def budgetSecs? (p : Policy) : Option Nat :=
  let secs := p.budget / 1000
  if secs < secsBound then some secs else none

end Policy

end HardwareFingerprint
