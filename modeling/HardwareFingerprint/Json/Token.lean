import HardwareFingerprint.Json.Fault
import HardwareFingerprint.Json.Text

/-!
# Words and separators of a document

Each step takes the text where a word or a separator is expected and leaves the text after it. A
comma must be followed by another item or member. The end of the text and a wrong character are
told apart.
-/
namespace HardwareFingerprint.Json

set_option autoImplicit false

/-- The rest after a word whose remaining letters are given. -/
def readWord : List Char → List Char → Except Fault (List Char)
  | [], cs => .ok cs
  | _ :: _, [] => .error (.before .endInValue [])
  | w :: ws, c :: cs =>
    if c = w then readWord ws cs else .error (.at .expectedWord (c :: cs))

/-- The next item of a list, if there is one, else the closing bracket. -/
def nextItem (first : Bool) : Reader Bool := fun cs =>
  match skipSpaces cs with
  | [] => .error (.before .endInList [])
  | c :: rest =>
    if c = ']' then .ok (false, c :: rest)
    else if first then .ok (true, c :: rest)
    else if c = ',' then
      match skipSpaces rest with
      | [] => .error (.before .endInValue [])
      | d :: rest =>
        if d = ']' then .error (.at .trailingComma (d :: rest)) else .ok (true, d :: rest)
    else .error (.at .expectedItemEnd (c :: rest))

/-- The name of the next member of an object, if there is one, else the closing brace. -/
def nextName (first : Bool) : Reader (Option String) := fun cs =>
  match skipSpaces cs with
  | [] => .error (.before .endInObject [])
  | c :: rest =>
    if c = '\x7d' then .ok (none, c :: rest)
    else if first then
      if c = '"' then do
        let (name, rest) ← readText rest
        pure (some name, rest)
      else .error (.at .nameNotText (c :: rest))
    else if c = ',' then
      match skipSpaces rest with
      | [] => .error (.before .endInValue [])
      | d :: rest =>
        if d = '"' then do
          let (name, rest) ← readText rest
          pure (some name, rest)
        else if d = '\x7d' then .error (.at .trailingComma (d :: rest))
        else .error (.at .nameNotText (d :: rest))
    else .error (.at .expectedMemberEnd (c :: rest))

/-- The name of the only member of an object. An object without members lacks a value, and anything
else but a text is refused at its first character, whatever it is the start of. -/
def onlyName : Reader String := fun cs =>
  match skipSpaces cs with
  | [] => .error (.before .endInObject [])
  | c :: rest =>
    if c = '"' then readText rest
    else if c = '\x7d' then .error (.at .expectedValue (c :: rest))
    else .error (.at .nameNotText (c :: rest))

/-- The rest after the colon between a name and its value. -/
def readColon (cs : List Char) : Except Fault (List Char) :=
  match skipSpaces cs with
  | [] => .error (.before .endInObject [])
  | c :: rest => if c = ':' then .ok rest else .error (.at .expectedColon (c :: rest))

/-- The rest after the bracket that closes a list. -/
def closeList (cs : List Char) : Except Fault (List Char) :=
  match skipSpaces cs with
  | [] => .error (.before .endInList [])
  | c :: rest =>
    if c = ']' then .ok rest
    else if c = ',' then
      match skipSpaces rest with
      | [] => .error (.before .trailingCharacters [])
      | d :: rest =>
        if d = ']' then .error (.at .trailingComma (d :: rest))
        else .error (.at .trailingCharacters (d :: rest))
    else .error (.at .trailingCharacters (c :: rest))

/-- The rest after the brace that closes an object. -/
def closeObject (cs : List Char) : Except Fault (List Char) :=
  match skipSpaces cs with
  | [] => .error (.before .endInObject [])
  | c :: rest =>
    if c = '\x7d' then .ok rest
    else if c = ',' then .error (.at .trailingComma (c :: rest))
    else .error (.at .trailingCharacters (c :: rest))

/-- How far a list is passed after a value in it did not fit. -/
def passListEnd (cs : List Char) : List Char :=
  match skipSpaces cs with
  | ']' :: rest => rest
  | ',' :: rest => skipSpaces rest
  | rest => rest

/-- How far an object is passed after a member of it did not fit. -/
def passObjectEnd (cs : List Char) : List Char :=
  match skipSpaces cs with
  | '\x7d' :: rest => rest
  | rest => rest

end HardwareFingerprint.Json
