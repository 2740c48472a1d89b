import HardwareFingerprint.Json.Basic
import HardwareFingerprint.Text.Quoted
import HardwareFingerprint.Text.Split

/-!
# Why a document is refused

A document is read from its start, and the first problem ends the reading. The problem is a
malformed text, a text that ends early, or a well-formed value that does not fit what is expected
there. Its place is the line and the column, in bytes, up to which the text had been read.
-/
namespace HardwareFingerprint.Json

set_option autoImplicit false

/-- The kind of a value that was found where another was expected. A float is given by its text. -/
inductive Found where
  | null
  | bool (b : Bool)
  | whole (n : Int)
  | real (digits : String)
  | text (s : String)
  | sequence
  | map
  deriving DecidableEq

def Found.message : Found → String
  | .null => "null"
  | .bool b => "boolean `" ++ (if b then "true" else "false") ++ "`"
  | .whole n => "integer `" ++ toString n ++ "`"
  | .real d => "floating point `" ++ d ++ "`"
  | .text s => "string " ++ Text.quote s
  | .sequence => "sequence"
  | .map => "map"

/-- A well-formed value that does not fit. -/
inductive Mismatch where
  | wrongKind (found : Found) (expected : String)
  | wrongValue (found : Found) (expected : String)
  | wrongLength (length : Nat) (expected : String)
  | unknownChoice (name : String) (choices : List String)
  | missingMember (name : String)
  | repeatedMember (name : String)
  | noAlternative
  | decimal (fault : Numeral.DecimalFault)
  | tooSmall
  | other (message : String)
  deriving DecidableEq

/-- The choices that a name may take, each quoted. -/
def choiceList : List String → String
  | [] => "there are no variants"
  | [a] => "expected `" ++ a ++ "`"
  | [a, b] => "expected `" ++ a ++ "` or `" ++ b ++ "`"
  | many => "expected one of " ++ String.intercalate ", " (many.map fun c => "`" ++ c ++ "`")

def Mismatch.message : Mismatch → String
  | .wrongKind found expected => "invalid type: " ++ found.message ++ ", expected " ++ expected
  | .wrongValue found expected => "invalid value: " ++ found.message ++ ", expected " ++ expected
  | .wrongLength length expected =>
    "invalid length " ++ toString length ++ ", expected " ++ expected
  | .unknownChoice name choices => "unknown variant `" ++ name ++ "`, " ++ choiceList choices
  | .missingMember name => "missing field `" ++ name ++ "`"
  | .repeatedMember name => "duplicate field `" ++ name ++ "`"
  | .noAlternative => "data did not match any variant of untagged enum Value"
  | .decimal fault => fault.message
  | .tooSmall => "number too small to fit in target type"
  | .other message => message

/-- What stops the reading. -/
inductive Cause where
  | endInValue
  | endInList
  | endInObject
  | endInText
  | expectedColon
  | expectedItemEnd
  | expectedMemberEnd
  | expectedWord
  | expectedValue
  | invalidEscape
  | invalidNumber
  | numberOutOfRange
  | controlCharacter
  | nameNotText
  | loneSurrogate
  | trailingComma
  | trailingCharacters
  | escapeCutShort
  | tooDeep
  | mismatch (m : Mismatch)
  deriving DecidableEq

def Cause.message : Cause → String
  | .endInValue => "EOF while parsing a value"
  | .endInList => "EOF while parsing a list"
  | .endInObject => "EOF while parsing an object"
  | .endInText => "EOF while parsing a string"
  | .expectedColon => "expected `:`"
  | .expectedItemEnd => "expected `,` or `]`"
  | .expectedMemberEnd => "expected `,` or `\x7d`"
  | .expectedWord => "expected ident"
  | .expectedValue => "expected value"
  | .invalidEscape => "invalid escape"
  | .invalidNumber => "invalid number"
  | .numberOutOfRange => "number out of range"
  | .controlCharacter => "control character (\\u0000-\\u001F) found while parsing a string"
  | .nameNotText => "key must be a string"
  | .loneSurrogate => "lone leading surrogate in hex escape"
  | .trailingComma => "trailing comma"
  | .trailingCharacters => "trailing characters"
  | .escapeCutShort => "unexpected end of hex escape"
  | .tooDeep => "recursion limit exceeded"
  | .mismatch m => m.message

/-- The three kinds of problem: a malformed text, a text that ends early, a value that does not
fit. -/
inductive Category where
  | malformed
  | cutShort
  | unfit
  deriving DecidableEq

def Cause.category : Cause → Category
  | .endInValue | .endInList | .endInObject | .endInText => .cutShort
  | .mismatch _ => .unfit
  | _ => .malformed

/-- A line and a column of a document, the column in bytes. -/
structure Place where
  line : Nat
  column : Nat
  deriving DecidableEq

/-- The place after some bytes. -/
def Place.after (read : Bytes) : Place where
  line := 1 + read.count 0x0a
  column := (read.reverse.takeWhile (· != 0x0a)).length

/-- A refused document. A problem that was not met while reading has no place. -/
structure Error where
  cause : Cause
  place : Option Place
  deriving DecidableEq

def Error.message (e : Error) : String :=
  match e.place with
  | none => e.cause.message
  | some p =>
    e.cause.message ++ " at line " ++ toString p.line ++ " column " ++ toString p.column

/-- The place that a text of a line and a column gives. -/
def placeOf? (cs : List Char) : Option Place :=
  match Text.splitLast? " column ".toList cs with
  | some (line, column) =>
    if (line ++ column).all Text.isDigit then
      let number := Numeral.readBelow (Numeral.countOf 64)
      match number line, number column with
      | .ok l, .ok c => some ⟨l, c⟩
      | _, _ => none
    else none
  | none => none

/-- The problem that a message tells, which may end with its place. There is no line 0. -/
def Error.ofMessage (message : String) : Error :=
  let told := do
    let (told, place) ← Text.splitLast? " at line ".toList message.toList
    let p ← placeOf? place
    some (String.ofList told, p)
  match told with
  | some (told, p) => ⟨.mismatch (.other told), if p.line = 0 then none else some p⟩
  | none => ⟨.mismatch (.other message), none⟩

/-- The number of bytes of a text. -/
def byteCount (cs : List Char) : Nat :=
  cs.foldr (fun c n => c.utf8Size + n) 0

/-- A problem inside a document: one whose place is known by the number of bytes still unread, or a
value that does not fit, met with `rest` unread, which the reader around it places. -/
inductive Fault where
  | placed (cause : Cause) (unread : Nat)
  | loose (m : Mismatch) (rest : List Char)

/-- A problem met before `rest`. -/
def Fault.before (cause : Cause) (rest : List Char) : Fault :=
  .placed cause (byteCount rest)

/-- A problem with the first byte of `rest`, which counts as read. -/
def Fault.at (cause : Cause) (rest : List Char) : Fault :=
  .placed cause (byteCount rest - 1)

/-- A value that does not fit, met before `rest`. -/
def Fault.unfit (m : Mismatch) (rest : List Char) : Fault :=
  .before (.mismatch m) rest

/-- The problem with its place. A reader that is told of a loose problem first passes `close`. -/
def Fault.settle (close : List Char → List Char) : Fault → Fault
  | .placed cause unread => .placed cause unread
  | .loose m rest => .unfit m (close rest)

/-- The problem as an error of the whole document. -/
def Fault.toError (document : List Char) : Fault → Error
  | .placed cause unread =>
    let bytes := Bytes.ofText (String.ofList document)
    ⟨cause, some (Place.after (bytes.take (bytes.length - unread)))⟩
  | .loose m _ => ⟨.mismatch m, none⟩

/-- A reader takes a value from the start of a text and leaves the rest. -/
abbrev Reader (α : Type) :=
  List Char → Except Fault (α × List Char)

end HardwareFingerprint.Json
