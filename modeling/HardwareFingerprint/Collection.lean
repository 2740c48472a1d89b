import HardwareFingerprint.Fingerprint
import HardwareFingerprint.Host.Facts

/-!
# Collections

A collection is what a run gathered: the outcome of every category, in the order in which they were
asked for, and the three host facts, each with its failure if it has one. The fingerprint keeps the
successes, and the report has a line for each failure.
-/
namespace HardwareFingerprint

set_option autoImplicit false

/-- The outcome of one category. -/
structure Outcome where
  category : Category
  result : Except CategoryError String

structure Collection where
  strategy : Strategy
  outcomes : List Outcome
  host : HostFacts

/-- A key that could not be filled, with the text of its failure. -/
structure FailedKey where
  key : String
  error : String
  deriving DecidableEq

namespace FailedKey

def toJson (f : FailedKey) : Json :=
  .object [("key", .text f.key), ("error", .text f.error)]

/-- The line of a report. -/
def line (f : FailedKey) : String :=
  f.key ++ ": " ++ f.error ++ "\n"

/-- A report on some failures. -/
def report (fs : List FailedKey) : String :=
  String.join (fs.map line)

end FailedKey

/-- The failure of an outcome. -/
def Outcome.failed? (o : Outcome) : Option FailedKey :=
  match o.result with
  | .ok _ => none
  | .error e => some ⟨o.category.key, e.message⟩

/-- The failure of a host fact under a key. -/
def HostFacts.failed? : String × Except Failure String → Option FailedKey
  | (_, .ok _) => none
  | (key, .error e) => some ⟨key, e.message⟩

namespace Collection

/-- The failures, first of the categories in their order and then of the host facts. -/
def failures (c : Collection) : List FailedKey :=
  c.outcomes.filterMap Outcome.failed? ++ c.host.entries.filterMap HostFacts.failed?

/-- The fingerprint. Of several successes of one category the last counts. -/
def fingerprint (c : Collection) : Fingerprint :=
  let filled := c.outcomes.foldl (fun f o => f.setIfOk o.category.key o.result) Fingerprint.empty
  c.host.entries.foldl (fun f e => f.setIfOk e.1 e.2) filled

/-- The failures as a document. -/
def failuresJson (c : Collection) : Json :=
  .array (c.failures.map FailedKey.toJson)

/-- One line for each failure. -/
def report (c : Collection) : String :=
  FailedKey.report c.failures

end Collection

end HardwareFingerprint
