import HardwareFingerprint.Session

/-!
# The readiness gate

A run starts by connecting to the service manager, opening the service, and asking for its state
until it is running. A state that is not running and a state that could not be asked are both
followed by a pause. When the attempts are used up, the service is unavailable.
-/
namespace HardwareFingerprint

set_option autoImplicit false

/-- Why a run ends before it has collected anything: a failure, or a budget that is no duration and
that the log asked for. -/
inductive Stop where
  | failed (failure : Failure)
  | budgetOverflow
  deriving DecidableEq

namespace Readiness

variable {σ : Type}

/-- What using up the attempts of a policy means. -/
def unavailable (p : Policy) : Failure :=
  .serviceUnavailable p.service p.attempts

/-- Asks for the state up to `left` more times; `attempt` is the number of the next time. -/
def poll (p : Policy) : (left attempt : Nat) → Session σ (Except Failure Unit)
  | 0, _ => pure (.error (unavailable p))
  | left + 1, attempt => do
    match ← Session.ask .queryStatus with
    | .ok .running => pure (.ok ())
    | .ok state =>
      Session.tell (.notRunning attempt state)
      Session.ask (.pause p.interval)
      poll p left (attempt + 1)
    | .error e =>
      Session.tell (.statusUnknown attempt e)
      Session.ask (.pause p.interval)
      poll p left (attempt + 1)

/-- Waits until the opened service is running. -/
def wait (p : Policy) : Session σ (Except Failure Unit) :=
  poll p p.attempts 1

/-- Announces the wait. The budget is worked out only for an event that is recorded. -/
def announce (p : Policy) : Session σ (Except Stop Unit) := do
  if ← Session.isRecorded .debug then
    match p.budgetSecs? with
    | none => pure (.error .budgetOverflow)
    | some secs =>
      Session.tell (.waiting p.service secs)
      pure (.ok ())
  else pure (.ok ())

/-- Connects, opens the service and waits until it is running. -/
def gate (p : Policy) : Session σ (Except Failure Unit) := do
  match ← Session.ask .connect with
  | .error e => pure (.error e)
  | .ok () =>
    match ← Session.ask (.openService p.service) with
    | .error e => pure (.error e)
    | .ok () =>
      match ← wait p with
      | .error e => pure (.error e)
      | .ok () =>
        Session.tell (.serviceReady p.service)
        pure (.ok ())

/-- The gate after its announcement. -/
def waitForService (p : Policy) : Session σ (Except Stop Unit) := do
  match ← announce p with
  | .error stop => pure (.error stop)
  | .ok () =>
    match ← gate p with
    | .error e => pure (.error (.failed e))
    | .ok () => pure (.ok ())

end Readiness

end HardwareFingerprint
