import HardwareFingerprint.Event
import HardwareFingerprint.RecordClass

/-!
# Sessions with the outside

A run asks the outside for things, one call after the other. The outside is any function that
answers a call from its own state and moves to a next state; the type of the answer depends on the
call. A session keeps the calls in order, and the events that the log is told to keep.
-/
namespace HardwareFingerprint

set_option autoImplicit false

/-- What a platform says of itself. -/
structure PlatformDetails where
  name : String
  version : String
  family : String
  deriving DecidableEq

/-- What can be asked. A pause is in milliseconds. -/
inductive Call where
  | connect
  | openService (service : String)
  | queryStatus
  | pause (duration : Nat)
  | platformDetails
  | run (program : String) (arguments : List String)
  | queryFirst (cls : RecordClass)
  | hostname
  | primaryIp
  | macAddress
  deriving DecidableEq

/-- What a call is answered with. -/
abbrev Call.Reply : Call → Type
  | connect => Except Failure Unit
  | openService _ => Except Failure Unit
  | queryStatus => Except Failure ServiceState
  | pause _ => Unit
  | platformDetails => Except Failure PlatformDetails
  | run _ _ => Except Failure Bytes
  | queryFirst _ => Except Failure Record
  | hostname => Except Failure String
  | primaryIp => Except Failure String
  | macAddress => Except Failure String

/-- The outside, with states of type `σ`. -/
abbrev World (σ : Type) : Type :=
  (c : Call) → σ → c.Reply × σ

/-- What a session runs in: the outside, and the level up to which events are recorded. -/
structure Surroundings (σ : Type) where
  world : World σ
  upTo : Option Level

/-- What a session has done so far. -/
structure Journal (σ : Type) where
  state : σ
  calls : Array Call
  events : Array Event

/-- A journal with nothing in it. -/
def Journal.start {σ : Type} (state : σ) : Journal σ :=
  ⟨state, #[], #[]⟩

abbrev Session (σ : Type) : Type → Type :=
  ReaderT (Surroundings σ) (StateM (Journal σ))

namespace Session

variable {σ : Type}

/-- Makes a call. -/
def ask (c : Call) : Session σ c.Reply := fun s => do
  let j ← get
  let (reply, state) := s.world c j.state
  set { j with state, calls := j.calls.push c }
  pure reply

/-- Would events of the level be recorded? -/
def isRecorded (l : Level) : Session σ Bool := fun s =>
  pure (l.isRecorded s.upTo)

/-- Records an event, if its level is recorded. -/
def tell (e : Event) : Session σ Unit := fun s =>
  modify fun j => if e.level.isRecorded s.upTo then { j with events := j.events.push e } else j

end Session

/-- An outside in which nothing can be reached. -/
def World.unreachable : World Unit := fun c u =>
  match c with
  | .connect | .openService _ => (.error (.serviceConnect "unreachable"), u)
  | .queryStatus => (.ok .stopped, u)
  | .pause _ => ((), u)
  | .platformDetails => (.error (.versionDetection "unreachable"), u)
  | .run program _ => (.error (.commandFailed program "unreachable"), u)
  | .queryFirst cls => (.error (.queryFailed cls.name "unreachable"), u)
  | .hostname | .primaryIp | .macAddress => (.error (.hostIdentity "unreachable"), u)

/-- The result of a session for which there is no outside, and of which no log is kept. -/
def Session.alone {α : Type} (s : Session Unit α) : α :=
  (s ⟨World.unreachable, none⟩ (Journal.start ())).1

end HardwareFingerprint
