import HardwareFingerprint.Numeral.Decimal
import HardwareFingerprint.Pattern.Group

/-!
# Log filters

A filter is a list of directives between commas. A directive is a level, or a target with an
optional span in brackets, with an optional field in braces inside it, and then an equals sign and a
level. A level is a name or a number from 0 to 5. A field may ask for a value, which is a number or
a pattern.

A directive is read without the blanks around it, but its parts are cut out of the directive with
its blanks, at the places counted without them. So blanks at the start shift every part, and a place
may fall inside a character. Then nothing can be cut.
-/
namespace HardwareFingerprint.LogFilter

set_option autoImplicit false

/-- Why a filter is refused. -/
inductive Fault where
  | malformed
  | badLevel
  | badField (fault : Pattern.Fault)
  deriving DecidableEq

def Fault.message : Fault → String
  | .malformed => "invalid filter directive"
  | .badLevel =>
    "error parsing level filter: expected one of \"off\", \"error\", \"warn\", \"info\", " ++
      "\"debug\", \"trace\", or a number 0-5"
  | .badField fault => "invalid field filter: " ++ fault.message

/-- What keeps a filter from use: it is refused, or a part of it cannot be cut out. -/
inductive Problem where
  | refused (fault : Fault)
  | cutCharacter
  deriving DecidableEq

/-- The filter that stands in where none is given. -/
def byDefault : String := "warn"

/-- The names of the levels, in lower case. -/
def levelNames : List String :=
  ["off", "error", "warn", "info", "debug", "trace"]

/-- A level: nothing, a name in any case, or a number from 0 to 5. -/
def isLevel (s : String) : Bool :=
  s.isEmpty || levelNames.contains (Text.lower s) ||
    match Numeral.readBelow (Numeral.countOf 64) s.toList with
    | .ok n => n ≤ 5
    | .error _ => false

/-- Is a field well formed? Its value stands between its first two equals signs, or after the only
one. -/
def checkField (field : List Char) : Except Fault Unit :=
  match Text.splitAt '=' field with
  | _ :: value :: _ =>
    if Numeral.isReal value then .ok () else (Pattern.check value).mapError .badField
  | _ => .ok ()

/-- The part of a directive that is being read, and the place where it starts. -/
inductive Part where
  | start
  | target
  | span (start : Nat)
  | field (start : Nat)
  | fields
  | afterSpan
  | level (start : Nat)

/-- The text of a directive from one place to another. -/
def cut (directive : List Char) (start stop : Nat) : Except Problem (List Char) :=
  match Text.between? start stop directive with
  | some part => .ok part
  | none => .error .cutCharacter

/-- Can a directive start with this character, if not with a bracket? -/
def startsTarget (c : Char) : Bool :=
  c = '-' || c = ':' || c = '_' || Text.isAlphanumeric c

/-- The part that is being read after a character at a place. -/
def step (directive : List Char) (part : Part) (place : Nat) (c : Char) : Except Problem Part :=
  match part with
  | .start =>
    if c = '[' then .ok (.span (place + 1))
    else if startsTarget c then .ok .target
    else .error (.refused .malformed)
  | .target => do
    if c = '=' then
      let _ ← cut directive 0 place
      pure (.level (place + 1))
    else if c = '[' then
      let _ ← cut directive 0 place
      pure (.span (place + 1))
    else pure .target
  | .span start => do
    if c = ']' then
      let _ ← cut directive start place
      pure .afterSpan
    else if c = '\x7b' then
      let _ ← cut directive start place
      pure (.field (place + 1))
    else pure (.span start)
  | .field start => do
    if c = '\x7d' then
      let field ← cut directive start place
      if field.isEmpty then .error (.refused .malformed)
      else
        (checkField field).mapError .refused
        pure .fields
    else pure (.field start)
  | .fields => if c = ']' then .ok .afterSpan else .error (.refused .malformed)
  | .afterSpan => if c = '=' then .ok (.level (place + 1)) else .error (.refused .malformed)
  | .level start => .ok (.level start)

/-- Can a directive end in this part? -/
def finish (directive : List Char) : Part → Except Problem Unit
  | .target => .ok ()
  | .afterSpan => .ok ()
  | .level start =>
    match Text.from? start directive with
    | none => .error .cutCharacter
    | some level =>
      if isLevel (String.ofList level) then .ok () else .error (.refused .badLevel)
  | _ => .error (.refused .malformed)

/-- Reads the rest of a directive, from a place on. -/
def readDirective (directive : List Char) : Part → Nat → List Char → Except Problem Unit
  | part, _, [] => finish directive part
  | part, place, c :: cs => do
    let part ← step directive part place c
    readDirective directive part (place + c.utf8Size) cs

/-- Is the directive well formed? -/
def checkDirective (directive : List Char) : Except Problem Unit :=
  readDirective directive .start 0 (Text.trimChars directive)

/-- Is the filter well formed? Nothing between two commas is no directive. -/
def check (filter : String) : Except Problem Unit :=
  ((Text.splitAt ',' filter.toList).filter (!·.isEmpty)).forM checkDirective

/-- The filter in force: the one of the command line, else that of the environment, without blanks
around it, and the default one in place of a blank one. -/
def inForce (flag environment : Option String) : String :=
  match (flag.or environment).map Text.trim with
  | some filter => if filter.isEmpty then byDefault else filter
  | none => byDefault

end HardwareFingerprint.LogFilter
