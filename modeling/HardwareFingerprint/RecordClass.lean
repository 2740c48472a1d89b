import HardwareFingerprint.Bytes.LittleEndian
import HardwareFingerprint.Tuple

/-!
# Record classes and records

The seven classes of instrumentation records. A class has the name under which records are asked
for, and properties in a fixed order, each a text or a whole number of fixed width. The order is
part of the canonical encoding. A record gives one value to each property of its class.
-/
namespace HardwareFingerprint

set_option autoImplicit false

inductive RecordClass where
  | computerSystemProduct
  | processor
  | physicalMemory
  | bios
  | computerSystem
  | diskDrive
  | operatingSystem
  deriving DecidableEq, Repr

/-- The kind of a property: a text, or a whole number of so many bytes. -/
inductive PropertyKind where
  | text
  | number (octets : Nat)
  deriving DecidableEq

abbrev PropertyKind.Value : PropertyKind → Type
  | .text => String
  | .number octets => Fin (Bytes.capacity octets)

structure Property where
  name : String
  kind : PropertyKind
  deriving DecidableEq

abbrev Property.Value (p : Property) : Type :=
  p.kind.Value

namespace RecordClass

/-- The name under which records of the class are asked for. -/
def name : RecordClass → String
  | .computerSystemProduct => "Win32_ComputerSystemProduct"
  | .processor => "Win32_Processor"
  | .physicalMemory => "Win32_PhysicalMemory"
  | .bios => "Win32_BIOS"
  | .computerSystem => "Win32_ComputerSystem"
  | .diskDrive => "Win32_DiskDrive"
  | .operatingSystem => "Win32_OperatingSystem"

/-- The name of the class in a document. -/
def tag : RecordClass → String
  | .computerSystemProduct => "ComputerSystemProduct"
  | .processor => "Processor"
  | .physicalMemory => "PhysicalMemory"
  | .bios => "Bios"
  | .computerSystem => "ComputerSystem"
  | .diskDrive => "DiskDrive"
  | .operatingSystem => "OperatingSystem"

def all : List RecordClass :=
  [.computerSystemProduct, .processor, .physicalMemory, .bios, .computerSystem, .diskDrive,
    .operatingSystem]

/-- The class with a name. -/
def ofName? (name : String) : Option RecordClass :=
  all.find? fun c => c.name = name

/-- The properties of a record, in order. -/
def properties : RecordClass → List Property
  | .computerSystemProduct => [⟨"UUID", .text⟩]
  | .processor =>
    [⟨"Caption", .text⟩, ⟨"DeviceID", .text⟩, ⟨"Manufacturer", .text⟩,
      ⟨"MaxClockSpeed", .number 4⟩, ⟨"Name", .text⟩, ⟨"SocketDesignation", .text⟩]
  | .physicalMemory =>
    [⟨"Capacity", .number 8⟩, ⟨"DeviceLocator", .text⟩, ⟨"MemoryType", .number 2⟩,
      ⟨"Name", .text⟩, ⟨"Tag", .text⟩, ⟨"TotalWidth", .number 2⟩]
  | .bios =>
    [⟨"Manufacturer", .text⟩, ⟨"Name", .text⟩, ⟨"SerialNumber", .text⟩,
      ⟨"SMBIOSBIOSVersion", .text⟩, ⟨"Version", .text⟩]
  | .computerSystem =>
    [⟨"DNSHostName", .text⟩, ⟨"Domain", .text⟩, ⟨"Manufacturer", .text⟩, ⟨"Model", .text⟩,
      ⟨"Name", .text⟩, ⟨"PrimaryOwnerName", .text⟩, ⟨"TotalPhysicalMemory", .number 8⟩]
  | .diskDrive =>
    [⟨"Caption", .text⟩, ⟨"DeviceID", .text⟩, ⟨"Model", .text⟩, ⟨"Partitions", .number 4⟩,
      ⟨"Size", .number 8⟩]
  | .operatingSystem =>
    [⟨"Caption", .text⟩, ⟨"OperatingSystemSKU", .number 4⟩, ⟨"Version", .text⟩]

end RecordClass

/-- The values of some properties. -/
abbrev Values (properties : List Property) : Type :=
  Tuple Property.Value properties

/-- A record of a given class. -/
abbrev RecordOf (cls : RecordClass) : Type :=
  Values cls.properties

/-- A record of some class. -/
structure Record where
  cls : RecordClass
  values : RecordOf cls

/-- The product record holds the machine's identifier. -/
def RecordOf.uuid (r : RecordOf .computerSystemProduct) : String :=
  r.1

/-- What the operating-system record says. -/
structure OperatingSystem where
  caption : String
  sku : Nat
  version : String

def RecordOf.operatingSystem (r : RecordOf .operatingSystem) : OperatingSystem :=
  let (caption, sku, version, _) := r
  ⟨caption, sku.val, version⟩

end HardwareFingerprint
