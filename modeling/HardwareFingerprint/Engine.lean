import HardwareFingerprint.Collection
import HardwareFingerprint.Platform
import HardwareFingerprint.Readiness
import HardwareFingerprint.Source

/-!
# Fingerprint runs

A run waits at the gate, chooses the strategy once, collects the categories in their order and then
the host facts. Only the gate ends a run early. Every other failure is kept with its part, told to
the log, and leaves the part empty.
-/
namespace HardwareFingerprint

set_option autoImplicit false

/-- The tunables of a run. -/
structure EngineConfig where
  readiness : Policy
  selector : Selector
  command : String
  deriving DecidableEq

/-- The tunables where nothing is configured. -/
def EngineConfig.byDefault (windowsDirectory : Option String) : EngineConfig :=
  ⟨Policy.byDefault, Selector.byDefault, Path.command windowsDirectory⟩

/-- A configured run, with where the platform's details and the host facts come from. -/
structure Engine where
  config : EngineConfig
  platform : PlatformSource
  host : HostSource

namespace Engine

variable {σ : Type}

/-- The outcome of a category. -/
def collectCategory (s : Source) (c : Category) : Session σ Outcome := do
  let result ← s.collect c
  match result with
  | .ok _ => pure ()
  | .error e => Session.tell (.categoryUnavailable e)
  pure ⟨c, result⟩

/-- The outcomes of some categories, one after the other. -/
def collectCategories (s : Source) : List Category → Session σ (List Outcome)
  | [] => pure []
  | c :: cs => do
    let o ← collectCategory s c
    let os ← collectCategories s cs
    pure (o :: os)

/-- Tells the log which of the facts failed. -/
def tellFacts : List (String × Except Failure String) → Session σ Unit
  | [] => pure ()
  | (key, result) :: rest => do
    match result with
    | .ok _ => pure ()
    | .error e => Session.tell (.factUnavailable key e)
    tellFacts rest

/-- What a run gathers after the gate. -/
def gather (engine : Engine) : Session σ Collection := do
  let strategy ← engine.config.selector.select engine.platform
  let outcomes ← collectCategories ⟨strategy, engine.config.command⟩ Category.all
  let host ← HostFacts.gather engine.host
  tellFacts host.entries
  let collection : Collection := ⟨strategy, outcomes, host⟩
  Session.tell (.collected strategy collection.failures.length)
  pure collection

/-- A run. -/
def collect (engine : Engine) : Session σ (Except Stop Collection) := do
  match ← Readiness.waitForService engine.config.readiness with
  | .error (.failed e) =>
    Session.tell (.gateClosed e)
    pure (.error (.failed e))
  | .error .budgetOverflow => pure (.error .budgetOverflow)
  | .ok () =>
    let collection ← engine.gather
    pure (.ok collection)

/-- A run of which only the fingerprint is kept. -/
def compute (engine : Engine) : Session σ (Except Stop Fingerprint) := do
  let result ← engine.collect
  pure (result.map Collection.fingerprint)

end Engine

end HardwareFingerprint
