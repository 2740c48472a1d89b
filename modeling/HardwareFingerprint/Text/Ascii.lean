/-!
# ASCII letters and digits

Letter case, decimal and hexadecimal digits of the ASCII characters. All other characters are
left as they are: they have no digit value and no other case here.
-/
namespace HardwareFingerprint.Text

set_option autoImplicit false

/-- The value of an ASCII decimal digit. -/
def digitValue? (c : Char) : Option Nat :=
  if '0' ≤ c ∧ c ≤ '9' then some (c.toNat - '0'.toNat) else none

def isDigit (c : Char) : Bool :=
  (digitValue? c).isSome

/-- The value of an ASCII hexadecimal digit of either case. -/
def hexValue? (c : Char) : Option Nat :=
  if '0' ≤ c ∧ c ≤ '9' then some (c.toNat - '0'.toNat)
  else if 'a' ≤ c ∧ c ≤ 'f' then some (c.toNat - 'a'.toNat + 10)
  else if 'A' ≤ c ∧ c ≤ 'F' then some (c.toNat - 'A'.toNat + 10)
  else none

def isHexDigit (c : Char) : Bool :=
  (hexValue? c).isSome

/-- An ASCII upper-case letter becomes its lower-case letter. -/
def lowerChar (c : Char) : Char :=
  if 'A' ≤ c ∧ c ≤ 'Z' then Char.ofNat (c.toNat + 32) else c

/-- An ASCII lower-case letter becomes its upper-case letter. -/
def upperChar (c : Char) : Char :=
  if 'a' ≤ c ∧ c ≤ 'z' then Char.ofNat (c.toNat - 32) else c

/-- The text with its ASCII letters in lower case. -/
def lower (s : String) : String :=
  String.ofList (s.toList.map lowerChar)

/-- Equality up to the case of ASCII letters. -/
def sameIgnoringCase (s t : List Char) : Bool :=
  s.map lowerChar == t.map lowerChar

/-- The lower-case hexadecimal digits of a number, without leading zeros. -/
def hexDigits (n : Nat) : List Char :=
  Nat.toDigits 16 n

/-- The two upper-case hexadecimal digits of a byte. -/
def byteHexUpper (b : UInt8) : List Char :=
  let two := if b.toNat < 16 then '0' :: hexDigits b.toNat else hexDigits b.toNat
  two.map upperChar

theorem isDigit_eq (c : Char) : isDigit c = c.isDigit := by
  have hle : ('0' ≤ c ∧ c ≤ '9') ↔ c.isDigit = true := by
    rw [Char.isDigit, Bool.and_eq_true, decide_eq_true_eq, decide_eq_true_eq]
    exact Iff.rfl
  rw [isDigit, digitValue?]
  by_cases h : '0' ≤ c ∧ c ≤ '9'
  · rw [if_pos h, hle.mp h]
    rfl
  · rw [if_neg h, Bool.eq_false_iff.mpr (mt hle.mpr h)]
    rfl

theorem digitValue?_eq {c : Char} (h : isDigit c = true) :
    digitValue? c = some (c.toNat - '0'.toNat) := by
  rw [isDigit, digitValue?] at h
  rw [digitValue?]
  by_cases hc : '0' ≤ c ∧ c ≤ '9'
  · rw [if_pos hc]
  · rw [if_neg hc] at h
    cases h

/-- Only a letter is the lower case of anything else. -/
theorem eq_of_lowerChar_eq {c d : Char} (hd : ¬ ('a' ≤ d ∧ d ≤ 'z')) (h : lowerChar c = d) :
    c = d := by
  rw [lowerChar] at h
  split at h
  · next hc =>
    have hlow : 65 ≤ c.toNat := hc.1
    have hhigh : c.toNat ≤ 90 := hc.2
    have hvalid : (c.toNat + 32).isValidChar := .inl (by omega)
    have hvalue : (Char.ofNat (c.toNat + 32)).toNat = c.toNat + 32 := by
      rw [Char.ofNat, dif_pos hvalid]
      rfl
    rw [h] at hvalue
    have hlower : 'a' ≤ d ∧ d ≤ 'z' := by
      constructor
      · change 97 ≤ d.toNat
        omega
      · change d.toNat ≤ 122
        omega
    exact absurd hlower hd
  · exact h

end HardwareFingerprint.Text
