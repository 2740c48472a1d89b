import HardwareFingerprint.Bytes.Basic
import HardwareFingerprint.Numeral.Shortest

/-!
# JSON documents

A document is a tree of values. Whole numbers that fit 64 bits, without a fraction or an exponent,
keep their value; every other number is a float, and so is negative zero. The members of an object
keep their order, and a name may occur more than once.
-/
namespace HardwareFingerprint

set_option autoImplicit false

/-- A number as it is read: a whole number from `-2 ^ 63` up to below `2 ^ 64`, or a float.
`negative n` stands for the number `-n`. -/
inductive Json.Number where
  | natural (n : Nat)
  | negative (n : Nat)
  | real (x : Float)

inductive Json where
  | null
  | bool (b : Bool)
  | number (n : Json.Number)
  | text (s : String)
  | array (items : List Json)
  | object (members : List (String × Json))

namespace Json

/-- The blank characters between the tokens of a document. -/
def isSpace (c : Char) : Bool :=
  c == ' ' || c == '\n' || c == '\t' || c == '\r'

/-- A document's rest from its next token on. -/
def skipSpaces (cs : List Char) : List Char :=
  cs.dropWhile isSpace

@[simp] theorem skipSpaces_nil : skipSpaces [] = [] := rfl

/-- Nothing is skipped before a character that is not blank. -/
theorem skipSpaces_cons {c : Char} (h : isSpace c = false) (cs : List Char) :
    skipSpaces (c :: cs) = c :: cs := by
  simp [skipSpaces, h]

end Json

end HardwareFingerprint
