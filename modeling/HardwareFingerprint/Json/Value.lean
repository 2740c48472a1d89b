import HardwareFingerprint.Json.Number
import HardwareFingerprint.Json.Token

/-!
# Reading a value of any kind

Values are read with a limit on how deep lists and objects may stand inside each other: `depth` is
the number of brackets that may still be opened.
-/
namespace HardwareFingerprint.Json

set_option autoImplicit false

/-- The number of brackets that may be open at once. -/
def maxDepth : Nat := 127

/-- The items of a list up to its closing bracket. No list has more items than characters. -/
def readItems {α : Type} (item : Reader α) : Nat → Bool → Reader (List α)
  | 0, _ => fun cs => .error (.before .endInList cs)
  | fuel + 1, first => fun cs => do
    let (more, cs) ← nextItem first cs
    if more then
      let (x, cs) ← item cs
      let (xs, cs) ← readItems item fuel false cs
      pure (x :: xs, cs)
    else pure ([], cs)

/-- The members of an object up to its closing brace. -/
def readMembers {α : Type} (value : Reader α) : Nat → Bool → Reader (List (String × α))
  | 0, _ => fun cs => .error (.before .endInObject cs)
  | fuel + 1, first => fun cs => do
    let (name, cs) ← nextName first cs
    match name with
    | none => pure ([], cs)
    | some name =>
      let cs ← readColon cs
      let (x, cs) ← value cs
      let (xs, cs) ← readMembers value fuel false cs
      pure ((name, x) :: xs, cs)

/-- A value with at most `depth` brackets open at once. -/
def readValue : Nat → Reader Json := fun depth cs =>
  match skipSpaces cs with
  | [] => .error (.before .endInValue [])
  | c :: rest =>
    if c = 'n' then do
      let rest ← readWord ['u', 'l', 'l'] rest
      pure (.null, rest)
    else if c = 't' then do
      let rest ← readWord ['r', 'u', 'e'] rest
      pure (.bool true, rest)
    else if c = 'f' then do
      let rest ← readWord ['a', 'l', 's', 'e'] rest
      pure (.bool false, rest)
    else if c = '-' then do
      let (n, rest) ← readNumber true rest
      pure (.number n, rest)
    else if Text.isDigit c then do
      let (n, rest) ← readNumber false (c :: rest)
      pure (.number n, rest)
    else if c = '"' then do
      let (s, rest) ← readText rest
      pure (.text s, rest)
    else if c = '[' then
      match depth with
      | 0 => .error (.at .tooDeep (c :: rest))
      | depth + 1 => do
        let (items, rest) ← readItems (readValue depth) (rest.length + 1) true rest
        let rest ← closeList rest
        pure (.array items, rest)
    else if c = '\x7b' then
      match depth with
      | 0 => .error (.at .tooDeep (c :: rest))
      | depth + 1 => do
        let (members, rest) ← readMembers (readValue depth) (rest.length + 1) true rest
        let rest ← closeObject rest
        pure (.object members, rest)
    else .error (.at .expectedValue (c :: rest))

theorem readValue_quote (depth : Nat) (cs : List Char) :
    readValue depth ('"' :: cs) = (do
      let (s, rest) ← readText cs
      pure (.text s, rest)) := by
  rw [readValue.eq_def]
  rfl

/-- What stands at the start of a text, where something else was expected. A list or an object is
told by its bracket alone; every other value is read first. -/
def foundInstead (expected : String) : List Char → Fault
  | [] => .before .endInValue []
  | c :: rest =>
    if c = '[' then .unfit (.wrongKind .sequence expected) (c :: rest)
    else if c = '\x7b' then .unfit (.wrongKind .map expected) (c :: rest)
    else match readValue 0 (c :: rest) with
      | .error f => f
      | .ok (.null, rest) => .unfit (.wrongKind .null expected) rest
      | .ok (.bool b, rest) => .unfit (.wrongKind (.bool b) expected) rest
      | .ok (.number (.natural n), rest) => .unfit (.wrongKind (.whole n) expected) rest
      | .ok (.number (.negative n), rest) => .unfit (.wrongKind (.whole (-n)) expected) rest
      | .ok (.number (.real x), rest) =>
        .unfit (.wrongKind (.real (String.ofList (Numeral.shortest x))) expected) rest
      | .ok (.text s, rest) => .unfit (.wrongKind (.text s) expected) rest
      | .ok (.array _, rest) => .unfit (.wrongKind .sequence expected) rest
      | .ok (.object _, rest) => .unfit (.wrongKind .map expected) rest

/-- A document read to its end. -/
def readDocument {α : Type} (read : Reader α) (document : String) : Except Error α :=
  match read document.toList with
  | .error f => .error (f.toError document.toList)
  | .ok (a, rest) =>
    match skipSpaces rest with
    | [] => .ok a
    | rest => .error ((Fault.at .trailingCharacters rest).toError document.toList)

end HardwareFingerprint.Json
