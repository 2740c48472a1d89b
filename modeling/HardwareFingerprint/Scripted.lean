import HardwareFingerprint.Session

/-!
# A scripted outside

An outside whose answers are written down beforehand. Each call takes the next of the answers kept
for it, and the last one repeats; service states are used up one by one, and after them the service
is stopped. Where no answer is kept, the call fails in a way of its own.
-/
namespace HardwareFingerprint

set_option autoImplicit false

/-- The answers kept for one kind of call. -/
structure Replies (α : Type) where
  items : List α

namespace Replies

variable {α : Type}

/-- The next answer, and the answers that are kept after it. -/
def next (r : Replies α) : Option α × Replies α :=
  match r.items with
  | [] => (none, r)
  | [a] => (some a, r)
  | a :: rest => (some a, ⟨rest⟩)

end Replies

/-- Answers under names. -/
abbrev NamedReplies (α : Type) : Type :=
  List (String × Replies α)

namespace NamedReplies

variable {α : Type}

/-- The next answer under a name, and the answers that are kept after it. -/
def next (name : String) : NamedReplies α → Option α × NamedReplies α
  | [] => (none, [])
  | (n, r) :: rest =>
    if n = name then
      let (a, r) := r.next
      (a, (n, r) :: rest)
    else
      let (a, rest) := next name rest
      (a, (n, r) :: rest)

/-- Is a name among them? -/
def has (named : NamedReplies α) (name : String) : Bool :=
  named.any fun n => n.1 == name

end NamedReplies

/-- Everything that a scripted outside still has to say. Commands are named by their first argument,
or by the mark for any other; records by the class asked for. -/
structure Script where
  connect : Replies (Except Failure Unit)
  openService : Replies (Except Failure Unit)
  states : List (Except Failure ServiceState)
  platform : Replies (Except Failure String)
  commands : NamedReplies (Except Failure Bytes)
  records : NamedReplies (Except Failure Record)
  hostname : Replies (Except Failure String)
  primaryIp : Replies (Except Failure String)
  macAddress : Replies (Except Failure String)

namespace Script

/-- The mark for any command that is not named. -/
def anyCommand : String := "*"

/-- Nothing is kept. -/
def silent : Script :=
  ⟨⟨[]⟩, ⟨[]⟩, [], ⟨[]⟩, [], [], ⟨[]⟩, ⟨[]⟩, ⟨[]⟩⟩

/-- The details of the scripted platform with a version. -/
def details (version : String) : PlatformDetails :=
  ⟨"Microsoft Windows", version, "windows"⟩

/-- A host fact for which no answer is kept. -/
def noFact : Except Failure String :=
  .error (.hostIdentity "none")

/-- The outside that follows its script. -/
def world : World Script
  | .connect, s =>
    let (a, connect) := s.connect.next
    (a.getD (.ok ()), { s with connect })
  | .openService _, s =>
    let (a, openService) := s.openService.next
    (a.getD (.ok ()), { s with openService })
  | .queryStatus, s =>
    match s.states with
    | [] => (.ok .stopped, s)
    | a :: states => (a, { s with states })
  | .pause _, s => ((), s)
  | .platformDetails, s =>
    let (a, platform) := s.platform.next
    ((a.getD (.error (.versionDetection "no data"))).map details, { s with platform })
  | .run program arguments, s =>
    let first := arguments.headD ""
    let name := if s.commands.has first then first else anyCommand
    let (a, commands) := s.commands.next name
    (a.getD (.error (.commandFailed program "not found")), { s with commands })
  | .queryFirst cls, s =>
    let (a, records) := s.records.next cls.name
    (a.getD (.error (.noRecords cls.name)), { s with records })
  | .hostname, s =>
    let (a, hostname) := s.hostname.next
    (a.getD noFact, { s with hostname })
  | .primaryIp, s =>
    let (a, primaryIp) := s.primaryIp.next
    (a.getD noFact, { s with primaryIp })
  | .macAddress, s =>
    let (a, macAddress) := s.macAddress.next
    (a.getD noFact, { s with macAddress })

end Script

end HardwareFingerprint
