import HardwareFingerprint.Pattern.CharacterSet
import HardwareFingerprint.Text.Alphanumeric

/-!
# Groups of a pattern

A group stands between parentheses and holds branches between bars. It may have a name or flags of
its own. A list of flags that no group follows holds to the end of the group around it, across its
bars. The main statement is that a step never leaves more than there was, so that reading ends.

A pattern can be used if it can be read to its end, with every group and set closed and not too many
parts enclosing one another, and if it does not ask for the edge of a word in Unicode mode.
-/
namespace HardwareFingerprint.Pattern

set_option autoImplicit false

/-- What stands in a branch: flags, or a part of some depth. -/
inductive Item where
  | directive
  | part (depth : Nat)

def Item.depth : Item → Nat
  | .directive => 0
  | .part d => d

/-- A group that has been read up to some character: the flags around it, the depths of the branches
that have ended, and the items of the last branch, the last item first. -/
structure OpenGroup where
  flagsAround : Flags
  branches : List Nat
  items : List Item

namespace OpenGroup

def branchDepth (g : OpenGroup) : Nat :=
  depthOf (g.items.map Item.depth)

/-- The depth of what is in the group. -/
def depthInside (g : OpenGroup) : Nat :=
  depthOf (g.branchDepth :: g.branches)

def add (g : OpenGroup) (item : Item) : OpenGroup :=
  { g with items := item :: g.items }

def nextBranch (g : OpenGroup) : OpenGroup :=
  { g with branches := g.branchDepth :: g.branches, items := [] }

/-- The group with its last item repeated. Flags cannot be repeated. -/
def repeatLast? (g : OpenGroup) : Option OpenGroup :=
  match g.items with
  | .part d :: items => some { g with items := .part (d + 1) :: items }
  | _ => none

end OpenGroup

/-- A name of a group: a letter or an underscore, and then letters, numbers and four signs. -/
def isGroupName : List Char → Bool
  | [] => false
  | c :: cs =>
    (c = '_' || Text.isLetter c) &&
      cs.all fun d => ['_', '.', '[', ']'].contains d || Text.isAlphanumeric d

/-- Reads a name of a group and the sign after it. -/
def readGroupName (cs : List Char) : Option (List Char × List Char) :=
  let name := cs.takeWhile (· != '>')
  match cs.dropWhile (· != '>') with
  | _ :: rest => if isGroupName name then some (name, rest) else none
  | [] => none

/-- Reads flags, each of which may be given once: the flags in force after them, whether a group
follows, and what is left. The letters that were read come last first. -/
def readFlags (f : Flags) (read : List Char) : List Char → Option (Flags × Bool × List Char)
  | [] => none
  | c :: cs =>
    if c = ':' then if read.head? = some '-' then none else some (f, true, cs)
    else if c = ')' then
      if read.isEmpty ∨ read.head? = some '-' then none else some (f, false, cs)
    else if Flags.letters.contains c && !read.contains c then
      readFlags (f.switch c !(read.contains '-')) (c :: read) cs
    else none

/-- A pattern that has been read up to some character: the flags in force, the innermost group and
those around it, the sets that are open, the names of groups, and whether the place of a word edge
was asked for in Unicode mode. -/
structure Reading where
  flags : Flags
  group : OpenGroup
  around : List OpenGroup
  sets : List OpenSet
  names : List (List Char)
  hasUnicodeWordEdge : Bool

namespace Reading

def start : Reading :=
  ⟨.usual, ⟨.usual, [], []⟩, [], [], [], false⟩

def add (r : Reading) (item : Item) : Reading :=
  { r with group := r.group.add item }

def addAtom? (r : Reading) (atom : Atom) : Option Reading :=
  if r.flags.admits atom then
    let found := atom = .wordEdge ∧ r.flags.unicode
    some { r.add (.part 0) with hasUnicodeWordEdge := r.hasUnicodeWordEdge || found }
  else none

/-- The reading inside a new group with the given flags. -/
def enter (r : Reading) (flags : Flags) : Reading :=
  { r with flags := flags, group := ⟨r.flags, [], []⟩, around := r.group :: r.around }

/-- The reading after the end of the innermost group. -/
def leave? (r : Reading) : Option Reading :=
  match r.around with
  | [] => none
  | outer :: around =>
    some { r with
      flags := r.group.flagsAround
      group := outer.add (.part (1 + r.group.depthInside))
      around := around }

/-- Reads the start of a group after its parenthesis, or a list of flags. -/
def openGroup (r : Reading) (cs : List Char) : Option (Reading × List Char) :=
  match skip r.flags.verbose cs with
  | '?' :: cs =>
    match (Text.after? ['P', '<'] cs).or (Text.after? ['<'] cs) with
    | some cs =>
      match readGroupName cs with
      | some (name, rest) =>
        if r.names.contains name then none
        else some ({ r.enter r.flags with names := name :: r.names }, rest)
      | none => none
    | none =>
      match readFlags r.flags [] cs with
      | some (flags, true, rest) => some (r.enter flags, rest)
      | some (flags, false, rest) => some ({ r.add .directive with flags := flags }, rest)
      | none => none
  | rest => some (r.enter r.flags, rest)

/-- The reading after a step within sets. -/
def afterSetStep (r : Reading) : SetStep → Reading
  | .within s around => { r with sets := s :: around }
  | .closed depth => { r.add (.part depth) with sets := [] }

/-- Reads on from a character outside of sets. -/
def readOutside (r : Reading) (c : Char) (cs : List Char) : Option (Reading × List Char) :=
  if c = '(' then r.openGroup cs
  else if c = ')' then r.leave?.map (·, cs)
  else if c = '|' then some ({ r with group := r.group.nextBranch }, cs)
  else if c = '[' then some ({ r with sets := [.empty] }, cs)
  else if c = '?' ∨ c = '*' ∨ c = '+' then
    r.group.repeatLast?.map fun g => ({ r with group := g }, (Text.after? ['?'] cs).getD cs)
  else if c = '\x7b' then none
  else if c = '.' then if r.flags.unicode then some (r.add (.part 0), cs) else none
  else if c = '^' ∨ c = '$' then some (r.add (.part 0), cs)
  else
    match readAtom r.flags.verbose c cs with
    | some (atom, rest) => (r.addAtom? atom).map (·, rest)
    | none => none

/-- Reads on from a character. -/
def step (r : Reading) (c : Char) (cs : List Char) : Option (Reading × List Char) :=
  if r.flags.verbose ∧ (Text.isBlank c ∨ c = '#') then some (r, skipLayout (c = '#') cs)
  else match r.sets with
    | s :: around => (readInSet r.flags s around c cs).map fun (next, rest) =>
      (r.afterSetStep next, rest)
    | [] => r.readOutside c cs

theorem length_le_of_readFlags {f g : Flags} {read cs rest : List Char} {isGroup : Bool}
    (h : readFlags f read cs = some (g, isGroup, rest)) : rest.length ≤ cs.length := by
  induction cs generalizing f read with
  | nil => simp [readFlags] at h
  | cons c cs ih =>
    unfold readFlags at h
    split at h
    · split at h <;> simp at h
      simp [← h.2.2]
    · split at h
      · split at h <;> simp at h
        simp [← h.2.2]
      · split at h
        · exact Nat.le_succ_of_le (ih h)
        · simp at h

theorem length_le_of_readGroupName {cs name rest : List Char}
    (h : readGroupName cs = some (name, rest)) : rest.length ≤ cs.length := by
  have hd := (List.dropWhile_sublist (fun d => d != '>') (l := cs)).length_le
  unfold readGroupName at h
  dsimp only at h
  split at h
  · rename_i hc
    rw [hc] at hd
    split at h <;> simp at h
    rw [← h.2]
    exact Nat.le_of_succ_le hd
  · simp at h

theorem length_le_of_openGroup {r r' : Reading} {cs rest : List Char}
    (h : r.openGroup cs = some (r', rest)) : rest.length ≤ cs.length := by
  have hs := length_skip_le r.flags.verbose cs
  unfold openGroup at h
  split at h
  · rename_i after hc
    rw [hc] at hs
    simp only [List.length_cons] at hs
    split at h
    · rename_i named hn
      have hl : named.length ≤ after.length := by
        rcases Option.or_eq_some_iff.1 hn with h | ⟨_, h⟩ <;> exact length_le_of_after? h
      split at h
      · rename_i hr
        have := length_le_of_readGroupName hr
        split at h <;> simp at h
        rw [← h.2]; omega
      · simp at h
    · split at h
      · rename_i hf
        have := length_le_of_readFlags hf
        simp at h
        rw [← h.2]; omega
      · rename_i hf
        have := length_le_of_readFlags hf
        simp at h
        rw [← h.2]; omega
      · simp at h
  · simp at h
    exact h.2 ▸ hs

theorem length_le_of_readOutside {r r' : Reading} {c : Char} {cs rest : List Char}
    (h : r.readOutside c cs = some (r', rest)) : rest.length ≤ cs.length := by
  unfold readOutside at h
  split at h
  · exact length_le_of_openGroup h
  · split at h
    · simp only [Option.map_eq_some_iff, Prod.mk.injEq] at h
      obtain ⟨_, _, _, rfl⟩ := h
      exact Nat.le_refl _
    · split at h
      · simp at h; simp [← h.2]
      · split at h
        · simp at h; simp [← h.2]
        · split at h
          · simp only [Option.map_eq_some_iff, Prod.mk.injEq] at h
            obtain ⟨_, _, _, rfl⟩ := h
            cases ha : Text.after? ['?'] cs with
            | none => exact Nat.le_refl _
            | some _ => exact length_le_of_after? ha
          · split at h
            · simp at h
            · split at h
              · split at h <;> simp at h
                simp [← h.2]
              · split at h
                · simp at h; simp [← h.2]
                · split at h
                  · rename_i ha
                    simp only [Option.map_eq_some_iff, Prod.mk.injEq] at h
                    obtain ⟨_, _, _, rfl⟩ := h
                    exact length_le_of_readAtom ha
                  · simp at h

/-- A step never leaves more than there was. -/
theorem length_le_of_step {r r' : Reading} {c : Char} {cs rest : List Char}
    (h : r.step c cs = some (r', rest)) : rest.length ≤ cs.length := by
  unfold step at h
  split at h
  · simp only [Option.some.injEq, Prod.mk.injEq] at h
    exact h.2 ▸ length_skipLayout_le _ cs
  · split at h
    · simp only [Option.map_eq_some_iff, Prod.mk.injEq] at h
      obtain ⟨⟨_, _⟩, hr, _, rfl⟩ := h
      exact length_le_of_readInSet hr
    · exact length_le_of_readOutside h

/-- Reads to the end of a pattern. -/
def run (r : Reading) : List Char → Option Reading
  | [] => some r
  | c :: cs =>
    match h : r.step c cs with
    | none => none
    | some (r', rest) =>
      have := length_le_of_step h
      r'.run rest
termination_by cs => cs.length

/-- Is everything closed, and not too deep? -/
def isWhole (r : Reading) : Bool :=
  r.sets.isEmpty && r.around.isEmpty && r.group.depthInside ≤ maxDepth

end Reading

/-- Can a pattern be used? -/
def check (pattern : List Char) : Except Fault Unit :=
  match Reading.start.run pattern with
  | none => .error .invalid
  | some r =>
    if !r.isWhole then .error .invalid
    else if r.hasUnicodeWordEdge then .error .unicodeWordEdge
    else .ok ()

end HardwareFingerprint.Pattern
