import HardwareFingerprint.Bytes.Basic
import HardwareFingerprint.Canonical
import HardwareFingerprint.Session

/-!
# Attribute sources

A source turns a hardware category into a digest. Under command output that is the digest of what
the command prints, byte for byte; under structured query that of the canonical encoding of the
record. Equal bytes have equal digests under both. A failure carries its category and its strategy.
-/
namespace HardwareFingerprint

set_option autoImplicit false

/-- A strategy with the program that is run under command output. -/
structure Source where
  strategy : Strategy
  program : String
  deriving DecidableEq

namespace Source

variable {σ : Type}

/-- What the command prints for a category. -/
def output (s : Source) (c : Category) : Session σ (Except Failure Bytes) := do
  Session.tell (.commandStarted s.program c.arguments)
  match ← Session.ask (.run s.program c.arguments) with
  | .ok b => pure (.ok b)
  | .error e =>
    Session.tell (.commandFailed c e)
    pure (.error e)

/-- The record of a category, which must be of the class asked for. -/
def record (c : Category) : Session σ (Except Failure Record) := do
  match ← Session.ask (.queryFirst c.recordClass) with
  | .error e =>
    Session.tell (.recordMissing c.recordClass e)
    pure (.error e)
  | .ok r =>
    if r.cls = c.recordClass then pure (.ok r)
    else pure (.error (.unexpectedRecord c.recordClass.name r.cls.name))

/-- The machine's identifier in a product record. -/
def uuid? : Record → Option String
  | ⟨.computerSystemProduct, values⟩ => some values.uuid
  | _ => none

/-- The digest of what the command prints for a category. -/
def outputDigest (s : Source) (c : Category) : Session σ (Except Failure String) := do
  match ← s.output c with
  | .error e => pure (.error e)
  | .ok b =>
    if c = .uuid then
      Session.tell (.uuidRead (Text.trim (Bytes.lossyText b)))
    pure (.ok (Digest.ofBytes b))

/-- The digest of the record of a category. -/
def recordDigest (c : Category) : Session σ (Except Failure String) := do
  match ← record c with
  | .error e => pure (.error e)
  | .ok r =>
    if c = .uuid then
      match uuid? r with
      | some u => Session.tell (.uuidRead u)
      | none => pure ()
    pure (.ok (Canonical.digest r))

/-- The digest of a category. -/
def collect (s : Source) (c : Category) : Session σ (Except CategoryError String) := do
  let result ← match s.strategy with
    | .commandOutput => s.outputDigest c
    | .structuredQuery => recordDigest c
  pure (result.mapError fun e => ⟨c, s.strategy, e⟩)

end Source

end HardwareFingerprint
