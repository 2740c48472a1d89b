import HardwareFingerprint.Json.Text

/-!
# Writing a document

The compact form has no blanks. The indented form puts every item and every member on a line of its
own, two spaces further in than its brackets, and a space after each colon; an empty list or object
stays on one line.
-/
namespace HardwareFingerprint.Json

set_option autoImplicit false

/-- A number in decimal. -/
def Number.write : Number → List Char
  | .natural n => Numeral.digits n
  | .negative n => '-' :: Numeral.digits n
  | .real x => Numeral.shortest x

mutual

/-- The compact form of a value. -/
def write : Json → List Char
  | .null => ['n', 'u', 'l', 'l']
  | .bool true => ['t', 'r', 'u', 'e']
  | .bool false => ['f', 'a', 'l', 's', 'e']
  | .number n => n.write
  | .text s => writeText s
  | .array items => '[' :: writeItems items
  | .object members => '\x7b' :: writeMembers members

/-- The items of a list with its closing bracket. -/
def writeItems : List Json → List Char
  | [] => [']']
  | [x] => write x ++ [']']
  | x :: y :: xs => write x ++ ',' :: writeItems (y :: xs)

/-- The members of an object with its closing brace. -/
def writeMembers : List (String × Json) → List Char
  | [] => ['\x7d']
  | [(name, x)] => writeText name ++ ':' :: (write x ++ ['\x7d'])
  | (name, x) :: m :: ms => writeText name ++ ':' :: (write x ++ ',' :: writeMembers (m :: ms))

end

/-- A line break and the indentation of a line. -/
def newLine (level : Nat) : List Char :=
  '\n' :: List.replicate (2 * level) ' '

mutual

/-- The indented form of a value whose lines stand at `level`. -/
def writeIndented (level : Nat) : Json → List Char
  | .array (x :: xs) => '[' :: writeItemLines level (x :: xs)
  | .object (m :: ms) => '\x7b' :: writeMemberLines level (m :: ms)
  | other => write other

/-- The items of a list, each on its line, with the closing bracket. -/
def writeItemLines (level : Nat) : List Json → List Char
  | [] => newLine level ++ [']']
  | [x] => newLine (level + 1) ++ writeIndented (level + 1) x ++ newLine level ++ [']']
  | x :: y :: xs =>
    newLine (level + 1) ++ writeIndented (level + 1) x ++ ',' :: writeItemLines level (y :: xs)

/-- The members of an object, each on its line, with the closing brace. -/
def writeMemberLines (level : Nat) : List (String × Json) → List Char
  | [] => newLine level ++ ['\x7d']
  | [(name, x)] =>
    newLine (level + 1) ++ writeText name ++ ':' :: ' ' :: writeIndented (level + 1) x ++
      newLine level ++ ['\x7d']
  | (name, x) :: m :: ms =>
    newLine (level + 1) ++ writeText name ++ ':' :: ' ' :: writeIndented (level + 1) x ++
      ',' :: writeMemberLines level (m :: ms)

end

/-- The compact form as a text. -/
def compact (j : Json) : String :=
  String.ofList (write j)

/-- The indented form as a text. -/
def indented (j : Json) : String :=
  String.ofList (writeIndented 0 j)

end HardwareFingerprint.Json
