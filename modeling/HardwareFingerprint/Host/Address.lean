import HardwareFingerprint.Text.Ascii
import HardwareFingerprint.Text.Split

/-!
# Network addresses

An address has four octets or eight groups of sixteen bits. Octets are written in decimal without
leading zeros, groups in lower-case hexadecimal. In the second form one run of zero groups may be
left out between two colons, and the last two groups may be given as four octets. Writing leaves
out the first of the longest runs of at least two zero groups.
-/
namespace HardwareFingerprint

set_option autoImplicit false

inductive Address where
  | four (octets : Vector UInt8 4)
  | six (groups : Vector UInt16 8)
  deriving DecidableEq

namespace Address

/-- The address with these octets. -/
def ofOctets (octets : List Nat) : Address :=
  four (Vector.ofFn fun i => UInt8.ofNat (octets.getD i 0))

/-- The address with these groups. -/
def ofGroups (groups : List Nat) : Address :=
  six (Vector.ofFn fun i => UInt16.ofNat (groups.getD i 0))

/-- The number at the start of a text, of at least one and at most `most` digits. -/
def readDigits (value? : Char → Option Nat) (base most : Nat) (cs : List Char) :
    Option (Nat × List Char) :=
  let ds := cs.takeWhile fun c => (value? c).isSome
  if ds.isEmpty ∨ most < ds.length then none
  else some (ds.foldl (fun n c => n * base + (value? c).getD 0) 0, cs.drop ds.length)

/-- An octet: at most three decimal digits, no leading zero, below 256. -/
def readOctet (cs : List Char) : Option (Nat × List Char) := do
  let (n, rest) ← readDigits Text.digitValue? 10 3 cs
  let zeroFirst := cs.head? == some '0' && cs.length - rest.length > 1
  if zeroFirst || 255 < n then none else some (n, rest)

/-- So many octets, each after a point unless it is the first. -/
def readOctets : Nat → Bool → List Char → Option (List Nat × List Char)
  | 0, _, cs => some ([], cs)
  | count + 1, first, cs => do
    let cs ← if first then some cs else Text.after? ['.'] cs
    let (n, cs) ← readOctet cs
    let (ns, cs) ← readOctets count false cs
    some (n :: ns, cs)

/-- The text after the colon that separates a group from the one before it. -/
def separated (first : Bool) (cs : List Char) : Option (List Char) :=
  if first then some cs else Text.after? [':'] cs

/-- Groups at the start of a text, at most so many. Four octets may stand for two groups, and then
nothing follows them. -/
def readGroups : Nat → Bool → List Char → List Nat × Bool × List Char
  | 0, _, cs => ([], false, cs)
  | left + 1, first, cs =>
    let octets? := if left = 0 then none else (separated first cs).bind (readOctets 4 true)
    match octets? with
    | some ([a, b, c, d], rest) => ([a * 256 + b, c * 256 + d], true, rest)
    | _ =>
      match (separated first cs).bind (readDigits Text.hexValue? 16 4) with
      | none => ([], false, cs)
      | some (n, rest) =>
        let (ns, endsInOctets, rest) := readGroups left false rest
        (n :: ns, endsInOctets, rest)

/-- Eight groups, or fewer around the place where zeros are left out. -/
def readSix (cs : List Char) : Option (List Nat × List Char) :=
  let (head, endsInOctets, rest) := readGroups 8 true cs
  if head.length = 8 then some (head, rest)
  else if endsInOctets then none
  else do
    let rest ← Text.after? [':', ':'] rest
    let (tail, _, rest) := readGroups (7 - head.length) true rest
    some (head ++ List.replicate (8 - head.length - tail.length) 0 ++ tail, rest)

/-- The address that a text gives. -/
def parse? (s : String) : Option Address :=
  match readOctets 4 true s.toList with
  | some (octets, rest) => if rest.isEmpty then some (ofOctets octets) else none
  | none =>
    match readSix s.toList with
    | some (groups, []) => some (ofGroups groups)
    | _ => none

/-- The length of the run of zeros at the start of a list. -/
def zeroRun (groups : List Nat) : Nat :=
  (groups.takeWhile (· == 0)).length

/-- The start and the length of the first of the longest runs of zeros. -/
def longestZeroRun (groups : List Nat) : Nat × Nat :=
  (List.range groups.length).foldl
    (fun best i =>
      let n := zeroRun (groups.drop i)
      if best.2 < n then (i, n) else best)
    (0, 0)

def octetsText (octets : List Nat) : String :=
  String.intercalate "." (octets.map toString)

def groupsText (groups : List Nat) : String :=
  String.intercalate ":" (groups.map fun n => String.ofList (Text.hexDigits n))

def sixText (groups : List Nat) : String :=
  match groups with
  | [0, 0, 0, 0, 0, 0xffff, a, b] =>
    "::ffff:" ++ octetsText [a / 256, a % 256, b / 256, b % 256]
  | _ =>
    let (start, length) := longestZeroRun groups
    if 1 < length then
      groupsText (groups.take start) ++ "::" ++ groupsText (groups.drop (start + length))
    else groupsText groups

/-- An address as a text. -/
def text : Address → String
  | four octets => octetsText (octets.toList.map UInt8.toNat)
  | six groups => sixText (groups.toList.map UInt16.toNat)

theorem intercalate_ne_empty {mark : String} (hmark : mark ≠ "") {parts : List String}
    (h : 2 ≤ parts.length) : String.intercalate mark parts ≠ "" := by
  match parts, h with
  | first :: second :: parts, _ =>
    rw [String.intercalate_cons_cons]
    simp [String.append_eq_empty_iff, hmark]

theorem octetsText_ne_empty {octets : List Nat} (h : 2 ≤ octets.length) :
    octetsText octets ≠ "" :=
  intercalate_ne_empty (by decide) (by rwa [List.length_map])

theorem sixText_ne_empty {groups : List Nat} (h : 2 ≤ groups.length) : sixText groups ≠ "" := by
  rw [sixText.eq_def]
  split
  · simp [String.append_eq_empty_iff]
  · simp only []
    split
    · simp [String.append_eq_empty_iff]
    · exact intercalate_ne_empty (by decide) (by rwa [List.length_map])

/-- Every address is written with a mark between two of its parts at least. -/
theorem text_ne_empty (a : Address) : a.text ≠ "" := by
  cases a with
  | four octets => exact octetsText_ne_empty (by simp)
  | six groups => exact sixText_ne_empty (by simp)

end Address

end HardwareFingerprint
