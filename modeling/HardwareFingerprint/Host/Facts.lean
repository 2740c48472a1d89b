import HardwareFingerprint.Text.Quoted
import HardwareFingerprint.FileTree
import HardwareFingerprint.Host.Address
import HardwareFingerprint.Host.Mac
import HardwareFingerprint.Session

/-!
# Facts about the host

Host name, primary address and hardware address. They are asked of whoever knows them, or worked out
from what the system reports: the raw host name, the primary address, the interfaces with their
addresses, and the file that holds the hardware address of an interface.
-/
namespace HardwareFingerprint

set_option autoImplicit false

/-- What the system reports. A report that fails has the text of its problem. -/
structure SystemReport where
  hostname : Except String Bytes
  address : Except String Address
  interfaces : Except String (List (String × Address))
  files : Files
  networkRoot : String

namespace SystemReport

/-- Where interfaces have their directories unless told otherwise. -/
def defaultNetworkRoot : String := "/sys/class/net"

/-- The host name without blanks around it. -/
def hostName (r : SystemReport) : Except Failure String :=
  match r.hostname with
  | .error e => .error (.hostIdentity ("hostname: " ++ e))
  | .ok raw =>
    match Bytes.text? raw with
    | none => .error (.hostIdentity ("hostname " ++ Bytes.quote raw ++ " is not valid UTF-8"))
    | some s =>
      if (Text.trim s).isEmpty then .error (.hostIdentity "hostname unavailable")
      else .ok (Text.trim s)

/-- The primary address. -/
def primaryAddress (r : SystemReport) : Except Failure Address :=
  r.address.mapError fun e => .hostIdentity ("primary IP: " ++ e)

/-- The first interface that carries an address. -/
def interfaceOf (r : SystemReport) (a : Address) : Except Failure String :=
  match r.interfaces with
  | .error e => .error (.hostIdentity ("network interfaces: " ++ e))
  | .ok interfaces =>
    match interfaces.find? fun i => i.2 = a with
    | some (name, _) => .ok name
    | none => .error (.hostIdentity ("no interface carries " ++ a.text))

/-- The file that holds the hardware address of an interface. -/
def addressFile (r : SystemReport) (interface : String) : String :=
  Path.below r.networkRoot [interface, "address"]

/-- The hardware address of an interface. -/
def hardwareAddress (r : SystemReport) (interface : String) : Except Failure String :=
  match r.files.readText (r.addressFile interface) with
  | .error p => .error (.fileRead (r.addressFile interface) p.message)
  | .ok raw => Mac.normalize (Text.trim raw)

end SystemReport

/-- Where host facts come from: from whoever is asked for them, or from the system's report. -/
inductive HostSource where
  | asked
  | system (report : SystemReport)

namespace HostSource

variable {σ : Type}

def hostname : HostSource → Session σ (Except Failure String)
  | asked => Session.ask .hostname
  | system r => pure r.hostName

def primaryIp : HostSource → Session σ (Except Failure String)
  | asked => Session.ask .primaryIp
  | system r => pure (r.primaryAddress.map Address.text)

def macAddress : HostSource → Session σ (Except Failure String)
  | asked => Session.ask .macAddress
  | system r => do
    match r.primaryAddress >>= r.interfaceOf with
    | .error e => pure (.error e)
    | .ok interface =>
      Session.tell (.interfaceFound interface)
      pure (r.hardwareAddress interface)

end HostSource

/-- The three host facts of a run. -/
structure HostFacts where
  hostname : Except Failure String
  primaryIp : Except Failure String
  macAddress : Except Failure String

namespace HostFacts

/-- The facts, one after the other. -/
def gather {σ : Type} (h : HostSource) : Session σ HostFacts := do
  let hostname ← h.hostname
  let primaryIp ← h.primaryIp
  let macAddress ← h.macAddress
  pure ⟨hostname, primaryIp, macAddress⟩

/-- The facts under their keys. -/
def entries (f : HostFacts) : List (String × Except Failure String) :=
  [(Key.hostname, f.hostname), (Key.ipAddress, f.primaryIp), (Key.macAddress, f.macAddress)]

end HostFacts

end HardwareFingerprint
