import HardwareFingerprint.Json.Scalar
import HardwareFingerprint.Json.Skip
import HardwareFingerprint.Tuple

/-!
# Values of a declared shape

A shape is a list of members in a fixed order. A value of the shape is an object that gives its
members by name, in any order and between members of other names, or a list that gives the values in
the declared order. In an object a declared name may occur once; a list may end early where the rest
may be absent.
-/
namespace HardwareFingerprint.Json

set_option autoImplicit false

/-- What is known of the members a shape is made of: their names, the readers of their values,
which are told how many brackets may still be opened, and the values they take where they may be
absent. -/
structure Members (Key : Type) where
  name : Key → String
  Value : Key → Type
  reader : (k : Key) → Nat → Reader (Value k)
  absent : (k : Key) → Option (Value k)

variable {Key : Type}

/-- The values found so far. -/
abbrev Members.Slots (m : Members Key) : List Key → Type :=
  Tuple fun k => Option (m.Value k)

/-- Nothing has been found yet. -/
def Members.noSlots (m : Members Key) : (ks : List Key) → m.Slots ks
  | [] => ()
  | _ :: ks => (none, m.noSlots ks)

/-- The slots after the member called `name` has been read, or nothing if no member is called so. A
member that has been found already is refused before its value is looked at. -/
def Members.readMember (m : Members Key) (depth : Nat) (name : String) (cs : List Char) :
    (ks : List Key) → m.Slots ks → Option (Except Fault (m.Slots ks × List Char))
  | [], _ => none
  | k :: ks, (slot, slots) =>
    if m.name k = name then
      match slot with
      | some _ => some (.error (.loose (.repeatedMember name) cs))
      | none => some do
        let cs ← readColon cs
        let (v, cs) ← m.reader k depth cs
        pure ((some v, slots), cs)
    else
      (m.readMember depth name cs ks slots).map fun r => do
        let (slots, cs) ← r
        pure ((slot, slots), cs)

/-- The values of all members, in which an absent one takes its value for that case. -/
def Members.complete (m : Members Key) :
    (ks : List Key) → m.Slots ks → Except Mismatch (Tuple m.Value ks)
  | [], _ => .ok ()
  | k :: ks, (slot, slots) =>
    match slot.or (m.absent k) with
    | none => .error (.missingMember (m.name k))
    | some v => do
      let vs ← m.complete ks slots
      pure (v, vs)

/-- The members of an object up to its closing brace. No object has more members than characters. -/
def Members.readByName (m : Members Key) (depth : Nat) (ks : List Key) :
    Nat → Bool → m.Slots ks → Reader (m.Slots ks)
  | 0, _, _ => fun cs => .error (.before .endInObject cs)
  | fuel + 1, first, slots => fun cs => do
    let (name, cs) ← nextName first cs
    match name with
    | none => pure (slots, cs)
    | some name =>
      match m.readMember depth name cs ks slots with
      | some r => do
        let (slots, cs) ← r
        m.readByName depth ks fuel false slots cs
      | none => do
        let cs ← readColon cs
        let cs ← skipValue cs
        m.readByName depth ks fuel false slots cs

/-- The values of the members in their order, up to the end of the list or of the members. -/
def Members.readInOrder (m : Members Key) (depth : Nat) (expected : String) :
    (ks : List Key) → Nat → Reader (Tuple m.Value ks)
  | [], _ => fun cs => .ok ((), cs)
  | k :: ks, index => fun cs => do
    let (more, cs) ← nextItem (index == 0) cs
    if more then
      let (v, cs) ← m.reader k depth cs
      let (vs, cs) ← m.readInOrder depth expected ks (index + 1) cs
      pure ((v, vs), cs)
    else
      match m.absent k with
      | none => .error (.loose (.wrongLength index expected) cs)
      | some v => do
        let (vs, cs) ← m.readInOrder depth expected ks (index + 1) cs
        pure ((v, vs), cs)

/-- A named shape with its members in order. -/
structure Shape (Key : Type) extends Members Key where
  title : String
  keys : List Key

/-- A value of the shape. -/
abbrev Shape.Content (s : Shape Key) : Type :=
  Tuple s.Value s.keys

/-- What is expected of a list of the wrong length. -/
def Shape.expectedLength (s : Shape Key) : String :=
  let n := s.keys.length
  "struct " ++ s.title ++ " with " ++ toString n ++ (if n = 1 then " element" else " elements")

/-- A value of the shape given as an object, after its opening brace. -/
def Shape.readObject (s : Shape Key) (depth : Nat) : Reader s.Content := fun cs =>
  match s.readByName depth s.keys (cs.length + 1) true (s.noSlots s.keys) cs with
  | .error f => .error (f.settle passObjectEnd)
  | .ok (slots, cs) =>
    match s.complete s.keys slots with
    | .error m => .error ((Fault.loose m cs).settle passObjectEnd)
    | .ok vs => do
      let cs ← closeObject cs
      pure (vs, cs)

/-- A value of the shape given as a list, after its opening bracket. -/
def Shape.readList (s : Shape Key) (depth : Nat) : Reader s.Content := fun cs =>
  match s.readInOrder depth s.expectedLength s.keys 0 cs with
  | .error f => .error (f.settle passListEnd)
  | .ok (vs, cs) => do
    let cs ← closeList cs
    pure (vs, cs)

/-- A value of the shape, with at most `depth` brackets open at once. -/
def Shape.read (s : Shape Key) (depth : Nat) : Reader s.Content := fun cs =>
  match skipSpaces cs with
  | [] => .error (.before .endInValue [])
  | c :: rest =>
    if c = '\x7b' then
      match depth with
      | 0 => .error (.at .tooDeep (c :: rest))
      | depth + 1 => s.readObject depth rest
    else if c = '[' then
      match depth with
      | 0 => .error (.at .tooDeep (c :: rest))
      | depth + 1 => s.readList depth rest
    else .error (foundInstead ("struct " ++ s.title) (c :: rest))

/-- A document of the shape. -/
def Shape.readDocument (s : Shape Key) (document : String) : Except Error s.Content :=
  Json.readDocument (s.read maxDepth) document

end HardwareFingerprint.Json
