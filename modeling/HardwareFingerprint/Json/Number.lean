import HardwareFingerprint.Json.Fault

/-!
# Numbers inside a document

A number has a whole part without leading zeros, and may have a fraction and an exponent. The
significand takes the digits of the whole part and the fraction while it stays below `2 ^ 64`;
further digits of the whole part scale the number, and further digits of the fraction are dropped.
A number with a fraction, an exponent or too large a whole part is a float, and so is a negative
number that is zero or below `-2 ^ 63`. A float beyond all finite floats is out of range.
-/
namespace HardwareFingerprint.Json

set_option autoImplicit false

/-- The digits at the start of a text. -/
def leadingDigits (cs : List Char) : List Char :=
  cs.takeWhile Text.isDigit

/-- A text's rest after its leading digits. -/
def afterDigits (cs : List Char) : List Char :=
  cs.dropWhile Text.isDigit

/-- Appends digits to a significand while it stays below `2 ^ 64`. The count is of the digits
appended. -/
def appendDigits : Nat → List Char → Nat × Nat
  | significand, [] => (significand, 0)
  | significand, c :: cs =>
    let next := significand * 10 + (Text.digitValue? c).getD 0
    if next < Numeral.countOf 64 then
      let (all, count) := appendDigits next cs
      (all, count + 1)
    else (significand, 0)

/-- The digits of an exponent. -/
def exponentValue (ds : List Char) : Nat :=
  ds.foldl (fun n c => n * 10 + (Text.digitValue? c).getD 0) 0

/-- A power of ten up to `10 ^ 308` as a float. -/
def powerOfTen (n : Nat) : Float :=
  Float.ofScientific 1 false n

/-- A significand over a power of ten. Beyond the powers of ten that are floats, the division goes
in steps of `10 ^ 308` until nothing is left. -/
def shrink : Nat → Float → Nat → Float
  | 0, x, _ => x
  | steps + 1, x, n =>
    if n ≤ 308 then x / powerOfTen n
    else if x == 0 then x
    else shrink steps (x / powerOfTen 308) (n - 308)

/-- The float of a significand and a power of ten, if it is finite. -/
def floatOf? (significand : Nat) (exponent : Int) : Option Float :=
  let x := (UInt64.ofNat significand).toFloat
  if exponent < 0 then some (shrink 4 x exponent.natAbs)
  else if exponent ≤ 308 then
    let y := x * powerOfTen exponent.toNat
    if y.isInf then none else some y
  else if x == 0 then some x
  else none

/-- The number for a significand and a power of ten whose text ends before `rest`. -/
def real (minus : Bool) (significand : Nat) (exponent : Int) (rest : List Char) :
    Except Fault (Number × List Char) :=
  match floatOf? significand exponent with
  | none => .error (.before .numberOutOfRange rest)
  | some x => .ok (.real (if minus then -x else x), rest)

/-- The digits of an exponent that cannot be represented, up to the one that makes it so. -/
def digitsPastRange : Nat → List Char → List Char
  | _, [] => []
  | n, c :: cs =>
    match Text.digitValue? c with
    | none => c :: cs
    | some d => if n * 10 + d < Numeral.countOf 31 then digitsPastRange (n * 10 + d) cs else cs

/-- The number whose exponent follows, after the letter that announces it. -/
def readExponent (minus : Bool) (significand : Nat) (exponent : Int) : Reader Number := fun cs =>
  let (below, cs) := match cs with
    | '+' :: rest => (false, rest)
    | '-' :: rest => (true, rest)
    | _ => (false, cs)
  match cs with
  | [] => .error (.before .endInValue [])
  | c :: rest =>
    if Text.isDigit c then
      let value := exponentValue (leadingDigits cs)
      let after := afterDigits cs
      if value < Numeral.countOf 31 then
        real minus significand (if below then exponent - value else exponent + value) after
      else if significand ≠ 0 ∧ ¬ below then
        .error (.before .numberOutOfRange (digitsPastRange 0 cs))
      else .ok (.real (if minus then -0.0 else 0.0), after)
    else .error (.at .invalidNumber (c :: rest))

/-- The number after its whole part and its fraction. -/
def afterFraction (minus : Bool) (significand : Nat) (exponent : Int) : Reader Number
  | c :: rest =>
    if c = 'e' ∨ c = 'E' then readExponent minus significand exponent rest
    else real minus significand exponent (c :: rest)
  | [] => real minus significand exponent []

/-- The number whose fraction follows, after the point. -/
def readFraction (minus : Bool) (significand : Nat) (exponent : Int) : Reader Number := fun cs =>
  match leadingDigits cs with
  | [] =>
    match cs with
    | [] => .error (.at .endInValue [])
    | _ => .error (.at .invalidNumber cs)
  | ds =>
    let (all, count) := appendDigits significand ds
    afterFraction minus all (exponent - count) (afterDigits cs)

/-- A whole number by its sign. -/
def whole (minus : Bool) (n : Nat) : Number :=
  if minus then
    if n = 0 then .real (-0.0)
    else if n ≤ Numeral.countOf 63 then .negative n
    else .real (-(UInt64.ofNat n).toFloat)
  else .natural n

/-- The number after the digits of its whole part. -/
def afterWhole (minus : Bool) (ds : List Char) : Reader Number := fun cs =>
  let (significand, count) := appendDigits 0 ds
  let exponent : Int := ds.length - count
  match cs with
  | '.' :: rest => readFraction minus significand exponent rest
  | c :: rest =>
    if c = 'e' ∨ c = 'E' then readExponent minus significand exponent rest
    else if exponent = 0 then .ok (whole minus significand, c :: rest)
    else real minus significand exponent (c :: rest)
  | [] =>
    if exponent = 0 then .ok (whole minus significand, [])
    else real minus significand exponent []

/-- A number after its sign. -/
def readNumber (minus : Bool) : Reader Number := fun cs =>
  match cs with
  | [] => .error (.before .endInValue [])
  | c :: rest =>
    if c = '0' then
      match rest with
      | d :: _ =>
        if Text.isDigit d then .error (.at .invalidNumber rest) else afterWhole minus ['0'] rest
      | [] => afterWhole minus ['0'] rest
    else if Text.isDigit c then afterWhole minus (leadingDigits cs) (afterDigits cs)
    else .error (.at .invalidNumber cs)

/-- What follows an exponent that is passed over, after the letter that announces it. -/
def skipExponent (cs : List Char) : Except Fault (List Char) :=
  let cs := match cs with
    | '+' :: rest => rest
    | '-' :: rest => rest
    | _ => cs
  match cs with
  | [] => .error (.before .invalidNumber [])
  | c :: rest => if Text.isDigit c then .ok (afterDigits rest) else .error (.at .invalidNumber cs)

/-- What follows a number that is passed over, after the digits of its whole part. -/
def skipAfterWhole : List Char → Except Fault (List Char)
  | '.' :: rest =>
    match leadingDigits rest with
    | [] => .error (.at .invalidNumber rest)
    | _ =>
      match afterDigits rest with
      | c :: after => if c = 'e' ∨ c = 'E' then skipExponent after else .ok (c :: after)
      | [] => .ok []
  | c :: rest => if c = 'e' ∨ c = 'E' then skipExponent rest else .ok (c :: rest)
  | [] => .ok []

/-- What follows a number that is passed over, after its sign. -/
def skipNumber (cs : List Char) : Except Fault (List Char) :=
  match cs with
  | [] => .error (.before .invalidNumber [])
  | c :: rest =>
    if c = '0' then
      match rest with
      | d :: _ => if Text.isDigit d then .error (.at .invalidNumber rest) else skipAfterWhole rest
      | [] => .ok []
    else if Text.isDigit c then skipAfterWhole (afterDigits rest)
    else .error (.at .invalidNumber cs)

end HardwareFingerprint.Json
