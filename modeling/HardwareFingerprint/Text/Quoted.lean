import HardwareFingerprint.Bytes.Basic
import HardwareFingerprint.Text.Ascii
import HardwareFingerprint.Text.Hidden

/-!
# Quoted texts and byte strings

A text between double quotes, written so that its characters can be told apart: the quote and the
backslash are escaped, line ends, tabs and the null character have two-character names, and
characters that are not shown as themselves appear by number. A list of texts is quoted item by
item between brackets. In a quoted byte string the characters are quoted as in a text, and each
stray byte is written `\x` with two upper-case hexadecimal digits.
-/
namespace HardwareFingerprint.Text

set_option autoImplicit false

/-- The number of a character between braces, as in `\u` followed by its hexadecimal digits. -/
def numbered (c : Char) : List Char :=
  ['\\', 'u', Char.ofNat 0x7b] ++ hexDigits c.toNat ++ [Char.ofNat 0x7d]

/-- How a character appears inside a quoted text. -/
def quoteChar (c : Char) : List Char :=
  if c = '"' then ['\\', '"']
  else if c = '\\' then ['\\', '\\']
  else if c = '\n' then ['\\', 'n']
  else if c = '\r' then ['\\', 'r']
  else if c = '\t' then ['\\', 't']
  else if c = '\x00' then ['\\', '0']
  else if isHidden c then numbered c
  else [c]

/-- A text between double quotes. -/
def quote (s : String) : String :=
  String.ofList ('"' :: (s.toList.flatMap quoteChar ++ ['"']))

/-- The quoted items between brackets, separated by a comma and a space. -/
def quoteList (items : List String) : String :=
  "[" ++ String.intercalate ", " (items.map quote) ++ "]"

end HardwareFingerprint.Text

namespace HardwareFingerprint.Bytes

/-- How a piece appears inside a quoted byte string. -/
def quotePiece : Piece → List Char
  | .character c => Text.quoteChar c
  | .stray bytes => bytes.flatMap fun b => ['\\', 'x'] ++ Text.byteHexUpper b

/-- A byte string between double quotes. -/
def quote (b : Bytes) : String :=
  String.ofList ('"' :: ((pieces b).flatMap quotePiece ++ ['"']))

end HardwareFingerprint.Bytes
