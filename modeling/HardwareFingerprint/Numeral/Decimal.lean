import HardwareFingerprint.Text.Ascii

/-!
# Decimal numbers

Natural numbers below a bound in decimal. Reading takes an optional plus sign and one or more
ASCII digits, any number of leading zeros among them, and goes from left to right: a character
that is no digit is reported before a number that has just left the bound, and a number that left
the bound earlier is reported before the characters that follow it.

A real number is written with an optional sign and then either by name, as an infinity or as no
number, or in digits with an optional point and an optional exponent. The digits may all stand on
one side of the point.
-/
namespace HardwareFingerprint.Numeral

set_option autoImplicit false

/-- The count of the numbers of so many bits. -/
abbrev countOf (bits : Nat) : Nat :=
  Nat.pow 2 bits

/-- Why a text is not a decimal number below the bound. -/
inductive DecimalFault where
  | empty
  | invalidDigit
  | tooLarge
  deriving DecidableEq

def DecimalFault.message : DecimalFault → String
  | .empty => "cannot parse integer from empty string"
  | .invalidDigit => "invalid digit found in string"
  | .tooLarge => "number too large to fit in target type"

/-- The decimal digits of a number, without leading zeros. -/
def digits (n : Nat) : List Char :=
  Nat.toDigits 10 n

/-- The number whose digits follow those of `acc`, while it stays below the bound. -/
def digitsFrom (bound : Nat) : Nat → List Char → Except DecimalFault Nat
  | acc, [] => .ok acc
  | acc, c :: cs =>
    match Text.digitValue? c with
    | none => .error .invalidDigit
    | some d =>
      if acc * 10 + d < bound then digitsFrom bound (acc * 10 + d) cs else .error .tooLarge

/-- A decimal number below the bound. -/
def readBelow (bound : Nat) : List Char → Except DecimalFault Nat
  | [] => .error .empty
  | ['+'] => .error .invalidDigit
  | '+' :: c :: cs => digitsFrom bound 0 (c :: cs)
  | c :: cs => digitsFrom bound 0 (c :: cs)

/-- A whole number with an optional sign, below the bound and not negative. -/
def readSigned (bound : Nat) (cs : List Char) : Option (Fin bound) := do
  let n ← match cs with
    | '-' :: c :: cs => (digitsFrom bound 0 (c :: cs)).toOption.filter (· = 0)
    | cs => (readBelow bound cs).toOption
  if h : n < bound then some ⟨n, h⟩ else none

/-! ## Real numbers -/

/-- The names of the numbers that have no digits. -/
def realNames : List String :=
  ["inf", "infinity", "nan"]

/-- The text without a sign at its start. -/
def dropSign : List Char → List Char
  | [] => []
  | c :: cs => if c = '+' ∨ c = '-' then cs else c :: cs

/-- Nothing, or an exponent with its letter, in which a sign may precede the digits. -/
def isExponent : List Char → Bool
  | [] => true
  | c :: cs =>
    (c = 'e' || c = 'E') && !(dropSign cs).isEmpty && (dropSign cs).all Text.isDigit

/-- Digits on at least one side of an optional point, and an exponent. -/
def isScientific (cs : List Char) : Bool :=
  let rest := cs.dropWhile Text.isDigit
  match rest with
  | '.' :: rest =>
    (cs.head?.any Text.isDigit || rest.head?.any Text.isDigit) &&
      isExponent (rest.dropWhile Text.isDigit)
  | rest => cs.head?.any Text.isDigit && isExponent rest

/-- A real number. -/
def isReal (cs : List Char) : Bool :=
  realNames.contains (Text.lower (String.ofList (dropSign cs))) || isScientific (dropSign cs)

end HardwareFingerprint.Numeral
