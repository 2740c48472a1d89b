import HardwareFingerprint.Failure
import HardwareFingerprint.Text.Blank
import HardwareFingerprint.Text.Split

/-!
# Hardware addresses

A hardware address is twelve hexadecimal digits, between which colons, hyphens and points do not
count. Its normal form has six pairs of lower-case digits between colons. The adapter listing has a
row per line with quoted fields: connection name, adapter, address and transport.
-/
namespace HardwareFingerprint.Mac

set_option autoImplicit false

/-- A character that may stand between digits. -/
def isSeparator (c : Char) : Bool :=
  c == ':' || c == '-' || c == '.'

/-- The pairs of a text between colons. -/
def paired : List Char → List Char
  | a :: b :: c :: rest => a :: b :: ':' :: paired (c :: rest)
  | few => few

/-- The normal form of a hardware address. -/
def normalize (raw : String) : Except Failure String :=
  let digits := raw.toList.filter (!isSeparator ·)
  if digits.length = 12 ∧ digits.all Text.isHexDigit then
    .ok (String.ofList (paired (digits.map Text.lowerChar)))
  else .error (.hostIdentity ("invalid MAC address " ++ Text.quote raw))

/-- The mark between two quoted fields of a row. -/
def fieldMark : List Char := ['"', ',', '"']

/-- The fields of a row, without the quotes at both ends of the line. -/
def fields (line : List Char) : List (List Char) :=
  Text.splitOnMark fieldMark 0 (Text.stripChar '"' (Text.trimChars line))

/-- The address that a row gives for a connection, if it gives one. -/
def rowAddress? (connection : List Char) (line : List Char) : Option (List Char) :=
  match fields line with
  | name :: _ :: address :: _ =>
    let address := Text.trimChars address
    if Text.sameIgnoringCase name connection ∧ ¬ address.isEmpty ∧
        ¬ Text.sameIgnoringCase address ['N', '/', 'A'] then
      some address
    else none
  | _ => none

/-- The address of a connection in an adapter listing. -/
def listedAddress? (listing connection : String) : Option String :=
  ((Text.lines listing.toList).findSome? (rowAddress? connection.toList)).map String.ofList

end HardwareFingerprint.Mac
