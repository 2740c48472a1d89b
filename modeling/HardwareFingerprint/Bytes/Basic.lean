/-!
# Byte strings

Byte strings are lists of bytes. A text has one byte string, its UTF-8 form, and a byte string is
the form of at most one text: reading the form of a text gives the text back.

Any byte string is cut, from the left, into the characters it spells and the stray bytes between
them. A stray piece is the longest start of a character's form that is not continued to its end,
or a byte that starts no form at all. The lossy text shows each stray piece as one replacement
character.
-/
namespace HardwareFingerprint

set_option autoImplicit false

abbrev Bytes := List UInt8

namespace Bytes

/-- The UTF-8 form of a text. -/
def ofText (s : String) : Bytes :=
  s.toByteArray.data.toList

/-- The text whose UTF-8 form this is, if there is one. -/
def text? (b : Bytes) : Option String :=
  String.fromUTF8? ⟨b.toArray⟩

@[simp] theorem text?_ofText (s : String) : text? (ofText s) = some s := by
  simp [text?, ofText, String.fromUTF8?, s.isValidUTF8, String.fromUTF8]

/-- Only the UTF-8 form of a text reads as that text. -/
theorem eq_ofText_of_text? {b : Bytes} {s : String} (h : text? b = some s) : b = ofText s := by
  simp only [text?, String.fromUTF8?] at h
  split at h
  · cases h; simp [ofText, String.fromUTF8]
  · cases h

/-! ## Byte strings that are not quite text -/

/-- A character, or the bytes of a form that breaks off. -/
inductive Piece where
  | character (c : Char)
  | stray (bytes : Bytes)

/-- A byte that continues a form. -/
def isContinuation (b : UInt8) : Bool :=
  0x80 ≤ b && b ≤ 0xbf

/-- A second byte allowed after the first byte of a three-byte form. -/
def continuesThree (first second : UInt8) : Bool :=
  if first = 0xe0 then 0xa0 ≤ second && second ≤ 0xbf
  else if first = 0xed then 0x80 ≤ second && second ≤ 0x9f
  else isContinuation second

/-- A second byte allowed after the first byte of a four-byte form. -/
def continuesFour (first second : UInt8) : Bool :=
  if first = 0xf0 then 0x90 ≤ second && second ≤ 0xbf
  else if first = 0xf4 then 0x80 ≤ second && second ≤ 0x8f
  else isContinuation second

/-- The six payload bits of a continuation byte, appended to those before it. -/
def extend (bits : Nat) (b : UInt8) : Nat :=
  bits * 64 + b.toNat % 64

/-- The pieces of a byte string, from the left. -/
def pieces : Bytes → List Piece
  | [] => []
  | a :: rest =>
    if a < 0x80 then .character (Char.ofNat a.toNat) :: pieces rest
    else if 0xc2 ≤ a ∧ a ≤ 0xdf then
      match rest with
      | [] => [.stray [a]]
      | b :: rest' =>
        if isContinuation b then
          .character (Char.ofNat (extend (a.toNat % 32) b)) :: pieces rest'
        else .stray [a] :: pieces (b :: rest')
    else if 0xe0 ≤ a ∧ a ≤ 0xef then
      match rest with
      | [] => [.stray [a]]
      | b :: rest' =>
        if continuesThree a b then
          match rest' with
          | [] => [.stray [a, b]]
          | c :: rest'' =>
            if isContinuation c then
              .character (Char.ofNat (extend (extend (a.toNat % 16) b) c)) :: pieces rest''
            else .stray [a, b] :: pieces (c :: rest'')
        else .stray [a] :: pieces (b :: rest')
    else if 0xf0 ≤ a ∧ a ≤ 0xf4 then
      match rest with
      | [] => [.stray [a]]
      | b :: rest' =>
        if continuesFour a b then
          match rest' with
          | [] => [.stray [a, b]]
          | c :: rest'' =>
            if isContinuation c then
              match rest'' with
              | [] => [.stray [a, b, c]]
              | d :: rest''' =>
                if isContinuation d then
                  .character (Char.ofNat (extend (extend (extend (a.toNat % 8) b) c) d))
                    :: pieces rest'''
                else .stray [a, b, c] :: pieces (d :: rest''')
            else .stray [a, b] :: pieces (c :: rest'')
        else .stray [a] :: pieces (b :: rest')
    else .stray [a] :: pieces rest

/-- What a piece looks like in the lossy text. -/
def Piece.shown : Piece → Char
  | .character c => c
  | .stray _ => Char.ofNat 0xfffd

/-- The text in which every stray piece is a replacement character. -/
def lossyText (b : Bytes) : String :=
  String.ofList ((pieces b).map Piece.shown)

end Bytes

end HardwareFingerprint
