import HardwareFingerprint.Json.Number
import HardwareFingerprint.Json.Token

/-!
# Passing over a value

The value of a member that nobody asked for only has to be well formed. It may nest to any depth,
its numbers may have any size, and its texts may hold numbers of lone surrogates.
-/
namespace HardwareFingerprint.Json

set_option autoImplicit false

/-- What follows the items of a list and its closing bracket, the first item being next. -/
def skipItems (value : List Char → Except Fault (List Char)) :
    Nat → List Char → Except Fault (List Char)
  | 0, cs => .error (.before .endInList cs)
  | fuel + 1, cs => do
    let cs ← value cs
    match skipSpaces cs with
    | [] => .error (.before .endInList [])
    | c :: rest =>
      if c = ']' then pure rest
      else if c = ',' then skipItems value fuel rest
      else .error (.at .expectedItemEnd (c :: rest))

/-- What follows the members of an object and its closing brace, the first member being next. -/
def skipMembers (value : List Char → Except Fault (List Char)) :
    Nat → List Char → Except Fault (List Char)
  | 0, cs => .error (.before .endInObject cs)
  | fuel + 1, cs =>
    match skipSpaces cs with
    | [] => .error (.before .endInObject [])
    | c :: rest =>
      if c = '"' then do
        let cs ← skipText rest
        let cs ← readColon cs
        let cs ← value cs
        match skipSpaces cs with
        | [] => .error (.before .endInObject [])
        | d :: rest =>
          if d = '\x7d' then pure rest
          else if d = ',' then skipMembers value fuel rest
          else .error (.at .expectedMemberEnd (d :: rest))
      else .error (.at .nameNotText (c :: rest))

/-- What follows a value with at most `depth` brackets open at once. -/
def skipWithin : Nat → List Char → Except Fault (List Char) := fun depth cs =>
  match skipSpaces cs with
  | [] => .error (.before .endInValue [])
  | c :: rest =>
    if c = 'n' then readWord ['u', 'l', 'l'] rest
    else if c = 't' then readWord ['r', 'u', 'e'] rest
    else if c = 'f' then readWord ['a', 'l', 's', 'e'] rest
    else if c = '-' then skipNumber rest
    else if Text.isDigit c then skipNumber (c :: rest)
    else if c = '"' then skipText rest
    else if c = '[' then
      match depth with
      | 0 => .error (.at .tooDeep (c :: rest))
      | depth + 1 =>
        match skipSpaces rest with
        | [] => .error (.before .endInList [])
        | d :: rest =>
          if d = ']' then .ok rest
          else skipItems (skipWithin depth) (rest.length + 1) (d :: rest)
    else if c = '\x7b' then
      match depth with
      | 0 => .error (.at .tooDeep (c :: rest))
      | depth + 1 =>
        match skipSpaces rest with
        | [] => .error (.before .endInObject [])
        | d :: rest =>
          if d = '\x7d' then .ok rest
          else skipMembers (skipWithin depth) (rest.length + 1) (d :: rest)
    else .error (.at .expectedValue (c :: rest))

/-- What follows a list, told by what comes first inside it. -/
theorem skipWithin_bracket {cs rest : List Char} {d : Char} (h : skipSpaces cs = d :: rest)
    (depth : Nat) :
    skipWithin (depth + 1) ('[' :: cs) =
      if d = ']' then .ok rest
      else skipItems (skipWithin depth) (rest.length + 1) (d :: rest) := by
  rw [skipWithin.eq_def, skipSpaces_cons (by decide)]
  simp [h, show Text.isDigit '[' = false by decide]

/-- What follows an object, told by what comes first inside it. -/
theorem skipWithin_brace {cs rest : List Char} {d : Char} (h : skipSpaces cs = d :: rest)
    (depth : Nat) :
    skipWithin (depth + 1) ('\x7b' :: cs) =
      if d = '\x7d' then .ok rest
      else skipMembers (skipWithin depth) (rest.length + 1) (d :: rest) := by
  rw [skipWithin.eq_def, skipSpaces_cons (by decide)]
  simp [h, show Text.isDigit '\x7b' = false by decide]

/-- What follows a value. No text has more open brackets than characters, so depth is not
limited. -/
def skipValue (cs : List Char) : Except Fault (List Char) :=
  skipWithin cs.length cs

end HardwareFingerprint.Json
