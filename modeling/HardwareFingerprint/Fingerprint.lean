import HardwareFingerprint.Category
import HardwareFingerprint.Json.Writer

/-!
# Fingerprints

A fingerprint gives a text to each of the nine keys, in ascending order of the keys. An empty text
means that the part could not be collected. Setting a key replaces its text and never adds or drops
a key.
-/
namespace HardwareFingerprint

set_option autoImplicit false

structure Fingerprint where
  entries : List (String × String)
  deriving DecidableEq

namespace Fingerprint

/-- The keys in ascending order. -/
def orderedKeys : List String :=
  Key.all.mergeSort fun a b => decide (a ≤ b)

/-- Every key with an empty text. -/
def empty : Fingerprint :=
  ⟨orderedKeys.map fun k => (k, "")⟩

def keys (f : Fingerprint) : List String :=
  f.entries.map Prod.fst

/-- The text under a key. -/
def get? (f : Fingerprint) (key : String) : Option String :=
  f.entries.lookup key

/-- The fingerprint with another text under a key. A key that it does not have changes nothing. -/
def set (f : Fingerprint) (key value : String) : Fingerprint :=
  ⟨f.entries.map fun e => if e.1 = key then (key, value) else e⟩

/-- The fingerprint with another text under a key, unless there is none. -/
def setIfOk {ε : Type} (f : Fingerprint) (key : String) : Except ε String → Fingerprint
  | .ok value => f.set key value
  | .error _ => f

/-- The keys whose text is empty. -/
def missing (f : Fingerprint) : List String :=
  (f.entries.filter fun e => e.2.isEmpty).map Prod.fst

def toJson (f : Fingerprint) : Json :=
  .object (f.entries.map fun e => (e.1, .text e.2))

/-- The fingerprint as a document, indented or not. -/
def render (f : Fingerprint) (pretty : Bool) : String :=
  if pretty then f.toJson.indented else f.toJson.compact

@[simp] theorem keys_set (f : Fingerprint) (key value : String) :
    (f.set key value).keys = f.keys := by
  simp only [set, keys, List.map_map]
  refine List.map_congr_left fun e _ => ?_
  by_cases h : e.1 = key <;> simp [h]

theorem get?_set (f : Fingerprint) (key value k : String) :
    (f.set key value).get? k = if k = key then (f.get? k).map fun _ => value else f.get? k := by
  simp only [get?, set]
  induction f.entries with
  | nil => simp
  | cons e es ih =>
    obtain ⟨name, text⟩ := e
    by_cases hn : name = key
    · by_cases hk : k = key
      · simp [hn, hk]
      · simp [hn, hk, List.lookup_cons, beq_eq_false_iff_ne.mpr hk, ih]
    · by_cases hk : k = name
      · simp [hk, hn]
      · simp [hn, List.lookup_cons, beq_eq_false_iff_ne.mpr hk, ih]

end Fingerprint

end HardwareFingerprint
