import HardwareFingerprint.Json.Shape
import HardwareFingerprint.Json.Writer
import HardwareFingerprint.Session

/-!
# The platform and the choice of a strategy

The platform's version is asked for as such, or read from the operating-system record. In a record
the version of a Nano Server gets a mark that does not change its order. A version that is unknown
or cannot be read chooses command output.
-/
namespace HardwareFingerprint

set_option autoImplicit false

namespace PlatformDetails

inductive Member where
  | name
  | version
  | family
  deriving DecidableEq

def Member.text : Member → String
  | name => "name"
  | version => "version"
  | family => "family"

/-- The shape of a document of details: three texts. -/
def shape : Json.Shape Member where
  name := Member.text
  Value := fun _ => String
  reader := fun _ _ => Json.readString
  absent := fun _ => none
  title := "PlatformDetails"
  keys := [.name, .version, .family]

/-- The details that a document gives. -/
def read (document : String) : Except Json.Error PlatformDetails := do
  let (name, version, family, _) ← shape.readDocument document
  pure ⟨name, version, family⟩

def toJson (d : PlatformDetails) : Json :=
  .object [("name", .text d.name), ("version", .text d.version), ("family", .text d.family)]

/-- The stock-keeping numbers of the two Nano Server editions. -/
def nanoSkus : List Nat := [143, 144]

def isNanoServer (sku : Nat) : Bool :=
  nanoSkus.contains sku

/-- The version of an operating system, marked on a Nano Server. -/
def markedVersion (os : OperatingSystem) : String :=
  if isNanoServer os.sku then Text.trim os.version ++ "nano" else Text.trim os.version

/-- What an operating-system record says of the platform. -/
def ofSystem (os : OperatingSystem) : PlatformDetails :=
  ⟨Text.trim os.caption, markedVersion os, "windows"⟩

end PlatformDetails

/-- Where the platform's details come from: from whoever is asked for them, or from the
operating-system record. -/
inductive PlatformSource where
  | asked
  | record
  deriving DecidableEq

namespace PlatformSource

variable {σ : Type}

/-- The record of the operating system. -/
def system : Session σ (Except Failure OperatingSystem) := do
  match ← Session.ask (.queryFirst .operatingSystem) with
  | .ok ⟨.operatingSystem, values⟩ => pure (.ok values.operatingSystem)
  | .ok other =>
    pure (.error (.unexpectedRecord RecordClass.operatingSystem.name other.cls.name))
  | .error e =>
    Session.tell (.systemUnknown e)
    pure (.error (.versionDetection e.message))

/-- The details of the platform. -/
def details : PlatformSource → Session σ (Except Failure PlatformDetails)
  | asked => Session.ask .platformDetails
  | record => do
    match ← system with
    | .error e => pure (.error e)
    | .ok os =>
      Session.tell (.platformDetected os.caption (PlatformDetails.markedVersion os) os.sku)
      pure (.ok (PlatformDetails.ofSystem os))

/-- The version of the platform. -/
def version (p : PlatformSource) : Session σ (Except Failure String) := do
  let d ← p.details
  pure (d.map PlatformDetails.version)

end PlatformSource

/-- The strategy for the platform, or the forced one. -/
def Selector.select {σ : Type} (s : Selector) (p : PlatformSource) : Session σ Strategy := do
  match s.forced with
  | some strategy =>
    Session.tell (.strategyForced strategy)
    pure strategy
  | none =>
    match ← p.version with
    | .error e =>
      Session.tell (.versionUnknown e)
      pure .commandOutput
    | .ok version =>
      match s.forVersion version with
      | .ok strategy =>
        Session.tell (.strategySelected version s.threshold.text strategy)
        pure strategy
      | .error e =>
        Session.tell (.versionUnreadable version e)
        pure .commandOutput

end HardwareFingerprint
