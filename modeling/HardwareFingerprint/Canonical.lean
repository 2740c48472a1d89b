import HardwareFingerprint.Bytes.Base64
import HardwareFingerprint.Bytes.Md5
import HardwareFingerprint.Failure
import HardwareFingerprint.RecordClass

/-!
# Canonical encoding and digests

The digest of a byte string is its MD5 sum in padded base 64: 24 characters that end in two
padding characters. A text has the shape of a digest when it is the padded base 64 of sixteen
bytes. The digest of a record is that of its canonical encoding.

The canonical encoding of a record is that of its values in order. A number of fixed width is
written lowest byte first in its width. A text is written as the length of its UTF-8 form, a number
of eight bytes, and that form. Nothing stands between the values, and the class is not written.
Decoding takes the layout from the start of a byte string and leaves the rest.
-/
namespace HardwareFingerprint

set_option autoImplicit false

namespace Digest

/-- The number of bytes of a sum. -/
def sumLength : Nat := 16

/-- The number of characters of a digest. -/
def length : Nat := 24

/-- The digest of a byte string. -/
def ofBytes (b : Bytes) : String :=
  String.ofList (Bytes.Base64.encode (Bytes.Md5.sum b))

/-- A text that has the shape of a digest. -/
def hasShape (s : String) : Bool :=
  s.utf8ByteSize == length &&
    match Bytes.Base64.decode s.toList with
    | some raw => raw.length == sumLength
    | none => false

end Digest

namespace Canonical

/-- The number of bytes that hold the length of a text. -/
def lengthOctets : Nat := 8

/-- A byte string with its length before it. -/
def bytes (b : Bytes) : Bytes :=
  Bytes.littleEndian lengthOctets b.length ++ b

/-- The encoding of a text. -/
def text (s : String) : Bytes :=
  bytes (Bytes.ofText s)

/-- The encoding of one value. -/
def value : (k : PropertyKind) → k.Value → Bytes
  | .text, s => text s
  | .number octets, n => Bytes.littleEndian octets n.val

/-- The encoding of the values of some properties. -/
def values (ps : List Property) (vs : Values ps) : Bytes :=
  (Tuple.toList (fun p v => value p.kind v) ps vs).flatten

/-- The encoding of a record. -/
def record (r : Record) : Bytes :=
  values r.cls.properties r.values

/-- The digest of a record is that of its encoding. -/
def digest (r : Record) : String :=
  Digest.ofBytes (record r)

/-- The encoding of a path given by its bytes is that of its text. A path that is not UTF-8 has
none. -/
def path (raw : Bytes) : Except Failure Bytes :=
  match Bytes.text? raw with
  | some s => .ok (text s)
  | none => .error (.encoding "std::path::PathBuf" "path contains invalid UTF-8 characters")

/-- Exactly so many bytes from the start, and the rest. -/
def takeExactly (n : Nat) (b : Bytes) : Option (Bytes × Bytes) :=
  if n ≤ b.length then some (b.take n, b.drop n) else none

/-- The value at the start of a byte string, and the rest. -/
def decodeValue : (k : PropertyKind) → Bytes → Option (k.Value × Bytes)
  | .text, b => do
    let (size, b) ← takeExactly lengthOctets b
    let (form, b) ← takeExactly (Bytes.ofLittleEndian size) b
    let s ← Bytes.text? form
    some (s, b)
  | .number octets, b => do
    let (form, b) ← takeExactly octets b
    if h : Bytes.ofLittleEndian form < Bytes.capacity octets then
      some (⟨Bytes.ofLittleEndian form, h⟩, b)
    else none

/-- The values of some properties at the start of a byte string, and the rest. -/
def decode : (ps : List Property) → Bytes → Option (Values ps × Bytes)
  | [], b => some ((), b)
  | p :: ps, b => do
    let (v, b) ← decodeValue p.kind b
    let (vs, b) ← decode ps b
    some ((v, vs), b)

end Canonical

end HardwareFingerprint
