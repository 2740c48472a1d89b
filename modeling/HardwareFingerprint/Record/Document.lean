import HardwareFingerprint.Json.Shape
import HardwareFingerprint.Json.Writer
import HardwareFingerprint.RecordClass
import HardwareFingerprint.Text.Blank

/-!
# Record documents

A record is given as a document of its properties. The reported values are lax about their form: an
unset property is null, wide numbers come as texts, and numbers stand where texts are wanted. A
written record has its properties in order, each in the form of its kind.
-/
namespace HardwareFingerprint

set_option autoImplicit false

/-- The number that a value stands for, below `2 ^ 64`: null and a blank text are zero, a truth
value is one or zero, and a text is read in decimal without the blanks around it. -/
def Json.asNumber : Json → Except Json.Mismatch Nat
  | .null => .ok 0
  | .bool b => .ok b.toNat
  | .number (.natural n) => .ok n
  | .number (.negative _) => .error .tooSmall
  | .number (.real _) => .error .noAlternative
  | .text s =>
    match Text.trimChars s.toList with
    | [] => .ok 0
    | cs => (Numeral.readBelow (Numeral.countOf 64) cs).mapError .decimal
  | .array _ => .error .noAlternative
  | .object _ => .error .noAlternative

/-- The text that a value stands for: null is empty, and a number or a truth value is written
out. -/
def Json.asText : Json → Except Json.Mismatch String
  | .null => .ok ""
  | .bool b => .ok (if b then "true" else "false")
  | .number (.natural n) => .ok (String.ofList (Numeral.digits n))
  | .number (.negative n) => .ok (String.ofList ('-' :: Numeral.digits n))
  | .number (.real _) => .error .noAlternative
  | .text s => .ok s
  | .array _ => .error .noAlternative
  | .object _ => .error .noAlternative

namespace PropertyKind

/-- The value of the kind that a document's value stands for. -/
def ofJson : (k : PropertyKind) → Json → Except Json.Mismatch k.Value
  | .text, j => j.asText
  | .number octets, j => do
    let n ← j.asNumber
    if h : n < Bytes.capacity octets then .ok ⟨n, h⟩ else .error (.decimal .tooLarge)

/-- A value in the form of its kind. -/
def toJson : (k : PropertyKind) → k.Value → Json
  | .text, s => .text s
  | .number _, n => .number (.natural n.val)

/-- Reads any value and takes what it stands for. -/
def read (k : PropertyKind) (depth : Nat) : Json.Reader k.Value := fun cs => do
  let (j, rest) ← Json.readValue depth cs
  match k.ofJson j with
  | .ok v => .ok (v, rest)
  | .error m => .error (.loose m rest)

end PropertyKind

namespace RecordClass

/-- The shape of a record's document: every property must be given. -/
def shape (cls : RecordClass) : Json.Shape Property where
  name := Property.name
  Value := Property.Value
  reader := fun p => p.kind.read
  absent := fun _ => none
  title := cls.tag
  keys := cls.properties

/-- The record of the class that a document gives. -/
def read (cls : RecordClass) (document : String) : Except Json.Error Record := do
  let values ← cls.shape.readDocument document
  pure ⟨cls, values⟩

end RecordClass

namespace Record

/-- The document of a record. -/
def toJson (r : Record) : Json :=
  .object (Tuple.toList (fun p v => (p.name, p.kind.toJson v)) r.cls.properties r.values)

/-- The text of a record's document. -/
def write (r : Record) : String :=
  r.toJson.compact

end Record

end HardwareFingerprint
