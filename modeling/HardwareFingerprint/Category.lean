import HardwareFingerprint.RecordClass
import HardwareFingerprint.Strategy

/-!
# Hardware categories and fingerprint keys

Six categories of hardware are hashed independently, and three facts about the host are kept as they
are. Each has a key in the fingerprint. A category is asked for by the arguments of a command or by
the class of a record.
-/
namespace HardwareFingerprint

set_option autoImplicit false

namespace Key

def uuid : String := "uuid"
def processor : String := "processor-hash"
def memory : String := "memory-hash"
def bios : String := "bios-hash"
def system : String := "system-hash"
def hostname : String := "hostname-info"
def ipAddress : String := "ip-address"
def macAddress : String := "macaddr-info"
def disk : String := "disk-info"

/-- Every key of a fingerprint. -/
def all : List String :=
  [uuid, processor, memory, bios, system, hostname, ipAddress, macAddress, disk]

end Key

inductive Category where
  | uuid
  | processor
  | memory
  | bios
  | system
  | disk
  deriving DecidableEq, Repr

namespace Category

/-- The categories in the order in which they are collected. -/
def all : List Category :=
  [uuid, processor, memory, bios, system, disk]

def name : Category → String
  | uuid => "uuid"
  | processor => "processor"
  | memory => "memory"
  | bios => "bios"
  | system => "system"
  | disk => "disk"

/-- The name of the category in a document. -/
def tag : Category → String
  | uuid => "Uuid"
  | processor => "Processor"
  | memory => "Memory"
  | bios => "Bios"
  | system => "System"
  | disk => "Disk"

def key : Category → String
  | uuid => Key.uuid
  | processor => Key.processor
  | memory => Key.memory
  | bios => Key.bios
  | system => Key.system
  | disk => Key.disk

/-- What the command is asked for. -/
def arguments : Category → List String
  | uuid => ["csproduct", "get", "UUID"]
  | processor => ["cpu", "list", "brief"]
  | memory => ["memorychip", "list", "brief"]
  | bios => ["bios", "list", "brief"]
  | system => ["computersystem", "list", "brief"]
  | disk => ["diskdrive", "list", "brief"]

/-- The class of the record that is queried. -/
def recordClass : Category → RecordClass
  | uuid => .computerSystemProduct
  | processor => .processor
  | memory => .physicalMemory
  | bios => .bios
  | system => .computerSystem
  | disk => .diskDrive

/-- The category with a name. -/
def ofName? (name : String) : Option Category :=
  all.find? fun c => c.name = name

theorem mem_all (c : Category) : c ∈ all := by
  cases c <;> decide

theorem key_injective {c d : Category} (h : c.key = d.key) : c = d := by
  cases c <;> cases d <;> first | rfl | exact absurd h (by decide)

end Category

/-- A category that could not be read under a strategy. -/
structure CategoryError where
  category : Category
  strategy : Strategy
  cause : Failure
  deriving DecidableEq

def CategoryError.message (e : CategoryError) : String :=
  e.category.name ++ " (" ++ e.category.key ++ ") via " ++ e.strategy.name ++ " failed: " ++
    e.cause.message

end HardwareFingerprint
