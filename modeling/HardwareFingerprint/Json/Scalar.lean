import HardwareFingerprint.Json.Value

/-!
# Reading a value of one kind

A text, a whole number below a bound, one of several names, or a value that may be null. Each
reader says in its own words what it expects when it finds something else.
-/
namespace HardwareFingerprint.Json

set_option autoImplicit false

/-- A text, called `expected` in what is said of any other value. -/
def textCalled (expected : String) : Reader String := fun cs =>
  match skipSpaces cs with
  | [] => .error (.before .endInValue [])
  | c :: rest => if c = '"' then readText rest else .error (foundInstead expected (c :: rest))

/-- A text. -/
def readString : Reader String :=
  textCalled "a string"

/-- The path of a file. -/
def readPath : Reader String :=
  textCalled "path string"

/-- A number that is whole and below the bound. -/
def boundNumber (bound : Nat) (expected : String) (n : Number) (rest : List Char) :
    Except Fault (Fin bound × List Char) :=
  match n with
  | .natural n =>
    if h : n < bound then .ok (⟨n, h⟩, rest)
    else .error (.unfit (.wrongValue (.whole n) expected) rest)
  | .negative n => .error (.unfit (.wrongValue (.whole (-n)) expected) rest)
  | .real x =>
    .error (.unfit (.wrongKind (.real (String.ofList (Numeral.shortest x))) expected) rest)

/-- A whole number below the bound. -/
def readBelow (bound : Nat) (expected : String) : Reader (Fin bound) := fun cs =>
  match skipSpaces cs with
  | [] => .error (.before .endInValue [])
  | c :: rest =>
    if c = '-' then do
      let (n, rest) ← readNumber true rest
      boundNumber bound expected n rest
    else if Text.isDigit c then do
      let (n, rest) ← readNumber false (c :: rest)
      boundNumber bound expected n rest
    else .error (foundInstead expected (c :: rest))

/-- Null, or what another reader takes. -/
def orNull {α : Type} (read : Reader α) : Reader (Option α) := fun cs =>
  match skipSpaces cs with
  | [] => .error (.before .endInValue [])
  | c :: rest =>
    if c = 'n' then do
      let rest ← readWord ['u', 'l', 'l'] rest
      pure (none, rest)
    else do
      let (a, rest) ← read (c :: rest)
      pure (some a, rest)

/-- Null alone. -/
def readNull (cs : List Char) : Except Fault (List Char) :=
  match skipSpaces cs with
  | [] => .error (.before .endInValue [])
  | c :: rest =>
    if c = 'n' then readWord ['u', 'l', 'l'] rest else .error (foundInstead "unit" (c :: rest))

/-- The choice that a name stands for. -/
def choose {α : Type} (choices : List (String × α)) (name : String) (rest : List Char) :
    Except Fault (α × List Char) :=
  match choices.lookup name with
  | some a => .ok (a, rest)
  | none => .error (.unfit (.unknownChoice name (choices.map Prod.fst)) rest)

/-- One of several names: its text alone, or an object whose one member has that name and the value
null. -/
def readChoice {α : Type} (choices : List (String × α)) (depth : Nat) : Reader α := fun cs =>
  match skipSpaces cs with
  | [] => .error (.before .endInValue [])
  | c :: rest =>
    if c = '"' then do
      let (name, rest) ← readText rest
      choose choices name rest
    else if c = '\x7b' then
      match depth with
      | 0 => .error (.at .tooDeep (c :: rest))
      | _ + 1 => do
        let (name, rest) ← onlyName rest
        let (a, rest) ← choose choices name rest
        let rest ← readColon rest
        let rest ← readNull rest
        match skipSpaces rest with
        | [] => .error (.before .endInObject [])
        | d :: rest =>
          if d = '\x7d' then .ok (a, rest) else .error (.before .expectedValue (d :: rest))
    else .error (.at .expectedValue (c :: rest))

end HardwareFingerprint.Json
