import HardwareFingerprint.Json.Fault

/-!
# Texts inside a document

A text stands between double quotes. Two-character escapes and four-digit numbers of UTF-16 units
name characters; a character beyond the first plane takes the numbers of its two surrogates, and a
surrogate alone names nothing. Characters below the space must be escaped. Writing escapes the
quote, the backslash and the characters below the space, and leaves every other character alone.
A text that is passed over, and not read, may hold numbers of lone surrogates.
-/
namespace HardwareFingerprint.Json

set_option autoImplicit false

/-- The character that a letter after a backslash stands for. -/
def unescape? (c : Char) : Option Char :=
  if c = '"' ∨ c = '\\' ∨ c = '/' then some c
  else if c = 'b' then some '\x08'
  else if c = 'f' then some '\x0c'
  else if c = 'n' then some '\n'
  else if c = 'r' then some '\r'
  else if c = 't' then some '\t'
  else none

/-- The UTF-16 unit with these four hexadecimal digits. -/
def unit? (a b c d : Char) : Option Nat := do
  let w ← Text.hexValue? a
  let x ← Text.hexValue? b
  let y ← Text.hexValue? c
  let z ← Text.hexValue? d
  some (((w * 16 + x) * 16 + y) * 16 + z)

/-- A unit that opens a pair. -/
def opensPair (n : Nat) : Bool :=
  0xd800 ≤ n && n ≤ 0xdbff

/-- A unit that closes a pair. -/
def closesPair (n : Nat) : Bool :=
  0xdc00 ≤ n && n ≤ 0xdfff

/-- The character of a pair of units. -/
def pairChar (high low : Nat) : Char :=
  Char.ofNat ((high - 0xd800) * 1024 + (low - 0xdc00) + 0x10000)

/-- Four bytes were wanted as digits, and not all are. -/
def badUnit (cs : List Char) : Fault :=
  if byteCount cs < 4 then .before .endInText [] else .placed .invalidEscape (byteCount cs - 4)

/-- The rest of a text after its opening quote, with `acc` the characters before it, last first. -/
def textFrom (acc : List Char) : Reader (List Char)
  | [] => .error (.before .endInText [])
  | c :: rest =>
    if c = '"' then .ok (acc.reverse, rest)
    else if c = '\\' then
      match rest with
      | [] => .error (.before .endInText [])
      | e :: rest =>
        if e = 'u' then
          match rest with
          | h₁ :: h₂ :: h₃ :: h₄ :: rest =>
            match unit? h₁ h₂ h₃ h₄ with
            | none => .error (badUnit (h₁ :: h₂ :: h₃ :: h₄ :: rest))
            | some n =>
              if closesPair n then .error (.before .loneSurrogate rest)
              else if opensPair n then
                match rest with
                | [] => .error (.before .endInText [])
                | s :: rest =>
                  if s ≠ '\\' then .error (.at .escapeCutShort (s :: rest))
                  else match rest with
                    | [] => .error (.before .endInText [])
                    | u :: rest =>
                      if u ≠ 'u' then .error (.at .escapeCutShort (u :: rest))
                      else match rest with
                        | l₁ :: l₂ :: l₃ :: l₄ :: rest =>
                          match unit? l₁ l₂ l₃ l₄ with
                          | none => .error (badUnit (l₁ :: l₂ :: l₃ :: l₄ :: rest))
                          | some m =>
                            if closesPair m then textFrom (pairChar n m :: acc) rest
                            else .error (.before .loneSurrogate rest)
                        | few => .error (badUnit few)
              else textFrom (Char.ofNat n :: acc) rest
          | few => .error (badUnit few)
        else match unescape? e with
          | some x => textFrom (x :: acc) rest
          | none => .error (.at .invalidEscape (e :: rest))
    else if c < ' ' then .error (.before .controlCharacter rest)
    else textFrom (c :: acc) rest

@[simp] theorem textFrom_quote (acc rest : List Char) :
    textFrom acc ('"' :: rest) = .ok (acc.reverse, rest) := by
  rw [textFrom.eq_def]
  rfl

/-- The rest of a text after its opening quote. -/
def readText : Reader String := fun cs => do
  let (s, rest) ← textFrom [] cs
  pure (String.ofList s, rest)

/-- What follows a text, given what follows its opening quote. -/
def skipText : List Char → Except Fault (List Char)
  | [] => .error (.before .endInText [])
  | c :: rest =>
    if c = '"' then .ok rest
    else if c = '\\' then
      match rest with
      | [] => .error (.before .endInText [])
      | e :: rest =>
        if e = 'u' then
          match rest with
          | h₁ :: h₂ :: h₃ :: h₄ :: rest =>
            if (unit? h₁ h₂ h₃ h₄).isSome then skipText rest
            else .error (badUnit (h₁ :: h₂ :: h₃ :: h₄ :: rest))
          | few => .error (badUnit few)
        else if (unescape? e).isSome then skipText rest
        else .error (.at .invalidEscape (e :: rest))
    else if c < ' ' then .error (.before .controlCharacter (c :: rest))
    else skipText rest

/-- The letter that names a character after a backslash in a written text. -/
def escapeLetter? (c : Char) : Option Char :=
  if c = '"' ∨ c = '\\' then some c
  else if c = '\x08' then some 'b'
  else if c = '\x0c' then some 'f'
  else if c = '\n' then some 'n'
  else if c = '\r' then some 'r'
  else if c = '\t' then some 't'
  else none

/-- How a character is written inside a text. -/
def writeChar (c : Char) : List Char :=
  match escapeLetter? c with
  | some e => ['\\', e]
  | none =>
    if c < ' ' then
      ['\\', 'u', '0', '0', Nat.digitChar (c.toNat / 16), Nat.digitChar (c.toNat % 16)]
    else [c]

/-- A text between its quotes. -/
def writeText (s : String) : List Char :=
  '"' :: (s.toList.flatMap writeChar ++ ['"'])

end HardwareFingerprint.Json
