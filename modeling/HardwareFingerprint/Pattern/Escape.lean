import HardwareFingerprint.Pattern.Basic
import HardwareFingerprint.Text.Ascii
import HardwareFingerprint.Text.Blank

/-!
# Layout and escapes of a pattern

In verbose mode, blanks and comments may stand between the parts of a pattern, and between the
digits of an escape too. A comment runs from a number sign to the end of the line. The lemmas say
that whatever is read, no more is left than there was.
-/
namespace HardwareFingerprint.Pattern

set_option autoImplicit false

/-- What follows the blanks and comments at the start. -/
def skipLayout : Bool → List Char → List Char
  | _, [] => []
  | true, c :: cs => skipLayout (c != '\n') cs
  | false, c :: cs =>
    if Text.isBlank c then skipLayout false cs
    else if c = '#' then skipLayout true cs
    else c :: cs

/-- What follows the layout at the start, if there is any such thing as layout. -/
def skip (verbose : Bool) (cs : List Char) : List Char :=
  if verbose then skipLayout false cs else cs

/-- Reads so many hexadecimal digits after a number whose digits come before them. -/
def readDigits (verbose : Bool) : Nat → Nat → List Char → Option (Nat × List Char)
  | 0, n, cs => some (n, cs)
  | count + 1, n, cs =>
    match skip verbose cs with
    | [] => none
    | c :: rest =>
      match Text.hexValue? c with
      | none => none
      | some d => readDigits verbose count (n * 16 + d) rest

/-- The escapes that give a character by its number, with how many digits they have. -/
def numberedEscapes : List (Char × Nat) :=
  [('x', 2), ('u', 4), ('U', 8)]

/-- The escapes of one letter or sign that do not stand for themselves. -/
def namedEscapes : List (Char × Atom) :=
  [('d', .shorthand false), ('s', .shorthand false), ('w', .shorthand false),
    ('D', .shorthand true), ('S', .shorthand true), ('W', .shorthand true),
    ('A', .edge), ('z', .edge),
    ('b', .wordEdge), ('B', .wordEdge), ('<', .wordEdge), ('>', .wordEdge),
    ('a', .literal '\x07' false), ('f', .literal '\x0c' false), ('t', .literal '\t' false),
    ('n', .literal '\n' false), ('r', .literal '\r' false), ('v', .literal '\x0b' false)]

/-- Reads an escape from the character after its backslash. An ASCII character that is neither a
letter nor a digit stands for itself. -/
def readEscape (verbose : Bool) (c : Char) (cs : List Char) : Option (Atom × List Char) :=
  match numberedEscapes.lookup c with
  | some count =>
    match readDigits verbose count 0 cs with
    | some (n, rest) =>
      if n.isValidChar then some (.literal (Char.ofNat n) (c = 'x'), rest) else none
    | none => none
  | none =>
    match namedEscapes.lookup c with
    | some atom => some (atom, cs)
    | none => if c.toNat < 0x80 ∧ !c.isAlphanum then some (.literal c false, cs) else none

/-- Reads an atom that starts with a character. -/
def readAtom (verbose : Bool) (c : Char) (cs : List Char) : Option (Atom × List Char) :=
  if c = '\\' then
    match cs with
    | [] => none
    | c :: cs => readEscape verbose c cs
  else some (.literal c false, cs)

theorem length_skipLayout_le (inComment : Bool) (cs : List Char) :
    (skipLayout inComment cs).length ≤ cs.length := by
  induction cs generalizing inComment with
  | nil => cases inComment <;> simp [skipLayout]
  | cons c cs ih =>
    cases inComment with
    | true => exact Nat.le_succ_of_le (ih _)
    | false =>
      unfold skipLayout
      split
      · exact Nat.le_succ_of_le (ih _)
      · split
        · exact Nat.le_succ_of_le (ih _)
        · exact Nat.le_refl _

theorem length_skip_le (verbose : Bool) (cs : List Char) :
    (skip verbose cs).length ≤ cs.length := by
  cases verbose with
  | true => exact length_skipLayout_le false cs
  | false => exact Nat.le_refl _

theorem length_le_of_readDigits {verbose : Bool} {count n m : Nat} {cs rest : List Char}
    (h : readDigits verbose count n cs = some (m, rest)) : rest.length ≤ cs.length := by
  induction count generalizing n cs with
  | zero => simp [readDigits] at h; simp [h]
  | succ count ih =>
    have hs := length_skip_le verbose cs
    unfold readDigits at h
    split at h
    · simp at h
    · rename_i hc
      rw [hc] at hs
      split at h
      · simp at h
      · exact Nat.le_trans (ih h) (Nat.le_of_succ_le hs)

theorem length_le_of_readEscape {verbose : Bool} {c : Char} {cs rest : List Char} {atom : Atom}
    (h : readEscape verbose c cs = some (atom, rest)) : rest.length ≤ cs.length := by
  unfold readEscape at h
  split at h
  · split at h
    · rename_i hd
      have := length_le_of_readDigits hd
      split at h <;> simp_all
    · simp at h
  · split at h
    · simp_all
    · split at h <;> simp_all

theorem length_le_of_readAtom {verbose : Bool} {c : Char} {cs rest : List Char} {atom : Atom}
    (h : readAtom verbose c cs = some (atom, rest)) : rest.length ≤ cs.length := by
  unfold readAtom at h
  split at h
  · split at h
    · simp at h
    · exact Nat.le_succ_of_le (length_le_of_readEscape h)
  · simp_all

end HardwareFingerprint.Pattern
