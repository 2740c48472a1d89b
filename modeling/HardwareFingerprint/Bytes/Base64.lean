import HardwareFingerprint.Bytes.Basic

/-!
# Padded base 64

Three bytes are written as four characters of the standard alphabet; a last group of one or two
bytes is padded with `=` to four characters. Reading accepts written forms alone: it refuses
missing padding, padding before the end, and bits that the padding leaves unused but set.
-/
namespace HardwareFingerprint.Bytes.Base64

set_option autoImplicit false

/-- The alphabet, in the order of its values. -/
def alphabet : List Char :=
  "ABCDEFGHIJKLMNOPQRSTUVWXYZabcdefghijklmnopqrstuvwxyz0123456789+/".toList

/-- The character of a value below 64. -/
def symbol (n : Nat) : Char :=
  alphabet.getD n '='

/-- The value of a character of the alphabet. -/
def value? (c : Char) : Option Nat :=
  alphabet.findIdx? (· == c)

def encode : Bytes → List Char
  | [] => []
  | [a] => [symbol (a.toNat / 4), symbol (a.toNat % 4 * 16), '=', '=']
  | [a, b] =>
    [symbol (a.toNat / 4), symbol (a.toNat % 4 * 16 + b.toNat / 16), symbol (b.toNat % 16 * 4), '=']
  | a :: b :: c :: rest =>
    symbol (a.toNat / 4) :: symbol (a.toNat % 4 * 16 + b.toNat / 16) ::
      symbol (b.toNat % 16 * 4 + c.toNat / 64) :: symbol (c.toNat % 64) :: encode rest

/-- The one byte of a group with two padding characters. -/
def decodeOne (w x : Char) : Option Bytes := do
  let p ← value? w
  let q ← value? x
  if q % 16 = 0 then some [UInt8.ofNat (p * 4 + q / 16)] else none

/-- The two bytes of a group with one padding character. -/
def decodeTwo (w x y : Char) : Option Bytes := do
  let p ← value? w
  let q ← value? x
  let r ← value? y
  if r % 4 = 0 then
    some [UInt8.ofNat (p * 4 + q / 16), UInt8.ofNat (q % 16 * 16 + r / 4)]
  else none

/-- The three bytes of a full group. -/
def decodeThree (w x y z : Char) : Option Bytes := do
  let p ← value? w
  let q ← value? x
  let r ← value? y
  let s ← value? z
  some [UInt8.ofNat (p * 4 + q / 16), UInt8.ofNat (q % 16 * 16 + r / 4),
    UInt8.ofNat (r % 4 * 64 + s)]

def decode : List Char → Option Bytes
  | [] => some []
  | [w, x, '=', '='] => decodeOne w x
  | [w, x, y, '='] => decodeTwo w x y
  | w :: x :: y :: z :: rest => do
    let group ← decodeThree w x y z
    let others ← decode rest
    some (group ++ others)
  | _ => none

end HardwareFingerprint.Bytes.Base64
