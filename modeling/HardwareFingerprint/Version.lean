import HardwareFingerprint.Failure
import HardwareFingerprint.Text.Blank
import HardwareFingerprint.Text.Split

/-!
# Dotted versions

A version is a list of numbers between dots. Each part starts with its number, and whatever follows
the number in a part, such as the mark of an edition, does not count. Versions compare number by
number, and a number beyond the end counts as zero. The text is kept as it was given, without the
blanks around it.
-/
namespace HardwareFingerprint

set_option autoImplicit false

structure Version where
  components : List Nat
  text : String
  deriving DecidableEq

namespace Version

/-- Components are below this bound. -/
def bound : Nat := Numeral.countOf 64

/-- The number at the start of a part. -/
def component (part : List Char) : Except String Nat :=
  match part.takeWhile Text.isDigit with
  | [] => .error ("component " ++ Text.quote (String.ofList part) ++ " is not numeric")
  | ds =>
    match Numeral.readBelow bound ds with
    | .ok n => .ok n
    | .error e => .error ("component " ++ Text.quote (String.ofList part) ++ ": " ++ e.message)

/-- The numbers of the parts, or the problem of the first part that has one. -/
def componentList : List (List Char) → Except String (List Nat)
  | [] => .ok []
  | part :: parts => do
    let n ← component part
    let ns ← componentList parts
    pure (n :: ns)

/-- The version that a text gives. -/
def parse (s : String) : Except Failure Version :=
  match Text.trimChars s.toList with
  | [] => .error (.invalidVersion s "empty version string")
  | cs =>
    match componentList (Text.splitAt '.' cs) with
    | .ok components => .ok ⟨components, String.ofList cs⟩
    | .error reason => .error (.invalidVersion s reason)

/-- The order of two lists of components, in which missing components are zero. -/
def compareComponents : List Nat → List Nat → Ordering
  | [], bs => if bs.all (· == 0) then .eq else .lt
  | as, [] => if as.all (· == 0) then .eq else .gt
  | a :: as, b :: bs => (compare a b).then (compareComponents as bs)

/-- The order of versions, which their texts do not affect. -/
def order (a b : Version) : Ordering :=
  compareComponents a.components b.components

/-- The order as that of a type in which two values need not compare. Any two versions do. -/
def compare? (a b : Version) : Option Ordering :=
  some (order a b)

/-- Versions are the same if neither comes before the other. Their texts may differ. -/
def same (a b : Version) : Bool :=
  order a b == .eq

instance : LE Version where
  le a b := order a b ≠ .gt

instance (a b : Version) : Decidable (a ≤ b) :=
  inferInstanceAs (Decidable (_ ≠ _))

/-- The versions in ascending order. Versions that are equal in this order stay as they stood. -/
def sort (vs : List Version) : List Version :=
  vs.mergeSort fun a b => decide (a ≤ b)

end Version

end HardwareFingerprint
