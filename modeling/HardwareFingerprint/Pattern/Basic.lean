/-!
# Patterns

A pattern describes texts. It is used without tables of the characters of all scripts, which limits
what it may ask for. In Unicode mode, letter case cannot be ignored and a class of characters cannot
be named. Outside of it a pattern stays among the ASCII characters where it speaks of sets of
characters, since a set with other bytes in it could match half of a character.
-/
namespace HardwareFingerprint.Pattern

set_option autoImplicit false

/-- Why a pattern cannot be used. -/
inductive Fault where
  | invalid
  | unicodeWordEdge
  deriving DecidableEq

def Fault.message : Fault → String
  | .invalid => "error building NFA"
  | .unicodeWordEdge =>
    "unsupported regex feature for DFAs: cannot build DFAs for regexes with Unicode word " ++
      "boundaries; switch to ASCII word boundaries, or heuristically enable Unicode word " ++
      "boundaries or use a different regex engine"

/-- What is in force while a part of a pattern is read. In verbose mode, blanks and comments are
layout. -/
structure Flags where
  ignoresCase : Bool
  unicode : Bool
  verbose : Bool
  deriving DecidableEq

namespace Flags

/-- What is in force at the start of a pattern. -/
def usual : Flags :=
  ⟨false, true, false⟩

/-- The letters that switch flags, and the hyphen before those that are switched off. The letters
other than `i`, `u` and `x` do not matter to whether a pattern can be used. -/
def letters : List Char :=
  ['i', 'm', 's', 'u', 'x', 'R', 'U', '-']

/-- The flags after the one of a letter is switched. -/
def switch (f : Flags) (letter : Char) (on : Bool) : Flags :=
  if letter = 'i' then { f with ignoresCase := on }
  else if letter = 'u' then { f with unicode := on }
  else if letter = 'x' then { f with verbose := on }
  else f

end Flags

/-- A part of a pattern that has no parts of its own: a character, which may be written as a byte, a
class of characters that is named by a letter, or a place in the text. -/
inductive Atom where
  | literal (c : Char) (asByte : Bool)
  | shorthand (negated : Bool)
  | edge
  | wordEdge
  deriving DecidableEq

namespace Flags

/-- Can this class of ASCII characters be used where classes of all scripts cannot? -/
def admitsShorthand (f : Flags) (negated : Bool) : Bool :=
  !f.unicode && !negated

/-- Can an atom stand in a pattern? -/
def admits (f : Flags) : Atom → Bool
  | .literal c asByte => if f.unicode then !f.ignoresCase else !(asByte && 0x80 ≤ c.toNat)
  | .shorthand negated => f.admitsShorthand negated
  | .edge | .wordEdge => true

/-- Can an atom stand in a set of characters? -/
def admitsInSet (f : Flags) : Atom → Bool
  | .literal c _ => if f.unicode then !f.ignoresCase else c.toNat < 0x80
  | .shorthand negated => f.admitsShorthand negated
  | .edge | .wordEdge => false

/-- Can a class with a name stand in a set of characters? -/
def admitsNamed (f : Flags) (negated : Bool) : Bool :=
  if f.unicode then !f.ignoresCase else !negated

/-- Can the characters from one atom to another stand in a set of characters? -/
def admitsRange (f : Flags) : Atom → Atom → Bool
  | .literal c b, .literal d b' =>
    c ≤ d && f.admitsInSet (.literal c b) && f.admitsInSet (.literal d b')
  | _, _ => false

end Flags

/-- How many parts of a pattern may enclose one another. -/
def maxDepth : Nat := 250

/-- The depth of parts that stand side by side. A single part stands for itself. -/
def depthOf : List Nat → Nat
  | [] => 0
  | [d] => d
  | ds => 1 + ds.foldl max 0

end HardwareFingerprint.Pattern
