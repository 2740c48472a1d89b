import HardwareFingerprint.Pattern.Escape
import HardwareFingerprint.Text.Split

/-!
# Sets of characters in a pattern

A set stands between brackets, and a caret at its start negates it. Its items are characters, ranges
of them, named classes of ASCII characters and further sets, and doubled signs between items combine
what is before them with what is after them. Hyphens at the start stand for themselves, and so does
a closing bracket that is the first item.
-/
namespace HardwareFingerprint.Pattern

set_option autoImplicit false

/-- What may come next in a set: a caret or anything else, anything but a caret, or more items. -/
inductive SetPart where
  | caret
  | head
  | items
  deriving DecidableEq

/-- A set that has been read up to some character: what was combined already, and the items after
it, given by their depths. -/
structure OpenSet where
  part : SetPart
  negated : Bool
  combined : Option Nat
  items : List Nat

namespace OpenSet

/-- A set of which only the bracket has been read. -/
def empty : OpenSet :=
  ⟨.caret, false, none, []⟩

def add (s : OpenSet) (depth : Nat) : OpenSet :=
  { s with items := depth :: s.items }

/-- The depth of what is in the set. -/
def depthInside (s : OpenSet) : Nat :=
  match s.combined with
  | none => depthOf s.items
  | some d => 1 + max d (depthOf s.items)

/-- The set after a doubled sign. -/
def combine (s : OpenSet) : OpenSet :=
  { s with combined := some s.depthInside, items := [] }

/-- The depth of the set. -/
def depth (s : OpenSet) : Nat :=
  1 + s.depthInside

end OpenSet

/-- The names of the classes of ASCII characters. -/
def classNames : List String :=
  ["alnum", "alpha", "ascii", "blank", "cntrl", "digit", "graph", "lower", "print", "punct",
    "space", "upper", "word", "xdigit"]

/-- The signs that combine sets when they are doubled. -/
def combiningSigns : List Char :=
  ['&', '-', '~']

/-- What follows a name of a class and the end of the class. -/
def afterClassName? (cs : List Char) : Option (List Char) :=
  if classNames.contains (String.ofList (cs.takeWhile (· != ':'))) then
    Text.after? [':', ']'] (cs.dropWhile (· != ':'))
  else none

/-- Is a class with a name negated, and what follows it? Its bracket has been read. -/
def namedClass? : List Char → Option (Bool × List Char)
  | ':' :: '^' :: cs => (afterClassName? cs).map (true, ·)
  | ':' :: cs => (afterClassName? cs).map (false, ·)
  | _ => none

/-- The character that shows what a hyphen between two items is for. In verbose mode blanks are
passed, and so is one number sign among them. -/
def afterHyphen? (verbose : Bool) (cs : List Char) : Option Char :=
  if verbose then
    match cs.dropWhile Text.isBlank with
    | '#' :: rest => (rest.dropWhile Text.isBlank).head?
    | rest => rest.head?
  else cs.head?

/-- What follows the end of a range that starts with an atom, after the hyphen. -/
def readRange (f : Flags) (first : Atom) (cs : List Char) : Option (List Char) :=
  match skip f.verbose cs with
  | [] => none
  | c :: cs =>
    match readAtom f.verbose c cs with
    | some (last, rest) => if f.admitsRange first last then some rest else none
    | none => none

/-- What follows an item of a set that is a character, a range or a class with one letter. A hyphen
before a closing bracket or another hyphen makes no range. -/
def readSetItem (f : Flags) (c : Char) (cs : List Char) : Option (List Char) :=
  match readAtom f.verbose c cs with
  | none => none
  | some (atom, rest) =>
    let single := if f.admitsInSet atom then some rest else none
    match skip f.verbose rest with
    | '-' :: after =>
      match afterHyphen? f.verbose after with
      | some ']' | some '-' => single
      | _ => readRange f atom after
    | _ => single

/-- Where a step within sets leads: to a set with those around it, or out of them all, with the
depth of the outermost set. -/
inductive SetStep where
  | within (s : OpenSet) (around : List OpenSet)
  | closed (depth : Nat)

/-- The end of a set. -/
def closeSet (f : Flags) (s : OpenSet) (around : List OpenSet) : Option SetStep :=
  if s.negated && !f.unicode then none
  else match around with
    | [] => some (.closed s.depth)
    | outer :: around => some (.within (outer.add s.depth) around)

/-- Reads on from a character after the head of a set. -/
def readInItems (f : Flags) (s : OpenSet) (around : List OpenSet) (c : Char) (cs : List Char) :
    Option (SetStep × List Char) :=
  if c = ']' then (closeSet f s around).map (·, cs)
  else if c = '[' then
    match namedClass? cs with
    | some (negated, rest) =>
      if f.admitsNamed negated then some (.within (s.add 0) around, rest) else none
    | none => some (.within .empty (s :: around), cs)
  else if combiningSigns.contains c && cs.head? = some c then
    some (.within s.combine around, cs.drop 1)
  else (readSetItem f c cs).map (.within (s.add 0) around, ·)

/-- Reads on from a character in a set. -/
def readInSet (f : Flags) (s : OpenSet) (around : List OpenSet) (c : Char) (cs : List Char) :
    Option (SetStep × List Char) :=
  if s.part = .caret ∧ c = '^' then
    some (.within { s with part := .head, negated := true } around, cs)
  else if s.part ≠ .items ∧ (c = '-' ∨ c = ']' ∧ s.items.isEmpty) then
    if f.admitsInSet (.literal c false) then
      let part := if c = '-' then .head else .items
      some (.within { s.add 0 with part := part } around, cs)
    else none
  else readInItems f { s with part := .items } around c cs

theorem length_le_of_after? {mark cs rest : List Char} (h : Text.after? mark cs = some rest) :
    rest.length ≤ cs.length := by
  induction mark generalizing cs with
  | nil => simp_all [Text.after?]
  | cons m ms ih =>
    cases cs with
    | nil => simp [Text.after?] at h
    | cons c cs =>
      simp only [Text.after?] at h
      split at h
      · exact Nat.le_succ_of_le (ih h)
      · simp at h

theorem length_le_of_namedClass? {cs rest : List Char} {negated : Bool}
    (h : namedClass? cs = some (negated, rest)) : rest.length ≤ cs.length := by
  have name : ∀ {cs rest : List Char}, afterClassName? cs = some rest →
      rest.length ≤ cs.length := by
    intro cs rest h
    unfold afterClassName? at h
    split at h
    · exact Nat.le_trans (length_le_of_after? h) (List.dropWhile_sublist _).length_le
    · simp at h
  unfold namedClass? at h
  split at h
  · simp only [Option.map_eq_some_iff, Prod.mk.injEq] at h
    obtain ⟨r, hr, _, rfl⟩ := h
    have := name hr
    simp only [List.length_cons]; omega
  · simp only [Option.map_eq_some_iff, Prod.mk.injEq] at h
    obtain ⟨r, hr, _, rfl⟩ := h
    have := name hr
    simp only [List.length_cons]; omega
  · simp at h

theorem length_le_of_readRange {f : Flags} {first : Atom} {cs rest : List Char}
    (h : readRange f first cs = some rest) : rest.length ≤ cs.length := by
  have hs := length_skip_le f.verbose cs
  unfold readRange at h
  split at h
  · simp at h
  · rename_i hc
    rw [hc] at hs
    split at h
    · rename_i ha
      have := length_le_of_readAtom ha
      split at h <;> simp at h
      subst h
      simp only [List.length_cons] at hs; omega
    · simp at h

theorem length_le_of_readSetItem {f : Flags} {c : Char} {cs rest : List Char}
    (h : readSetItem f c cs = some rest) : rest.length ≤ cs.length := by
  unfold readSetItem at h
  split at h
  · simp at h
  · rename_i atom after ha
    have hl := length_le_of_readAtom ha
    have hs := length_skip_le f.verbose after
    have single : (if f.admitsInSet atom then some after else none) = some rest →
        rest.length ≤ cs.length := by
      intro h
      split at h <;> simp at h
      exact h ▸ hl
    dsimp only at h
    split at h
    · rename_i hc
      rw [hc] at hs
      split at h
      · exact single h
      · exact single h
      · have := length_le_of_readRange h
        simp only [List.length_cons] at hs; omega
    · exact single h

/-- Whatever a step in a set leads to, no more is left than there was. -/
theorem length_le_of_readInSet {f : Flags} {s : OpenSet} {around : List OpenSet} {c : Char}
    {cs rest : List Char} {next : SetStep}
    (h : readInSet f s around c cs = some (next, rest)) : rest.length ≤ cs.length := by
  unfold readInSet at h
  split at h
  · simp at h; simp [← h.2]
  · split at h
    · split at h <;> simp at h
      simp [← h.2]
    · unfold readInItems at h
      split at h
      · simp only [Option.map_eq_some_iff, Prod.mk.injEq] at h
        obtain ⟨_, _, _, rfl⟩ := h
        exact Nat.le_refl _
      · split at h
        · split at h
          · rename_i hn
            split at h <;> simp at h
            exact h.2 ▸ length_le_of_namedClass? hn
          · simp at h; simp [← h.2]
        · split at h
          · simp at h; simp [← h.2]
          · simp only [Option.map_eq_some_iff, Prod.mk.injEq] at h
            obtain ⟨_, hr, _, rfl⟩ := h
            exact length_le_of_readSetItem hr

end HardwareFingerprint.Pattern
