import HardwareFingerprint.FileTree
import HardwareFingerprint.Machine.Template

/-!
# Small programs

Programs that write what their arguments say, or what they read. A program reads a byte string,
writes to its output and about errors, in order, and exits with a status.
-/
namespace HardwareFingerprint.Machine

set_option autoImplicit false

inductive Stream where
  | output
  | errors
  deriving DecidableEq

/-- What a program wrote, in order, and the status with which it exited. -/
structure Ran where
  written : List (Stream × Bytes)
  status : UInt8

/-- A program, given how it calls itself in what it writes about errors, the files it can read, its
arguments, and what it reads. -/
abbrev Tool : Type :=
  String → FileSystem → List String → Bytes → Ran

namespace Tool

def silent (status : UInt8) : Ran :=
  ⟨[], status⟩

def writes (b : Bytes) : Ran :=
  ⟨[(.output, b)], 0⟩

/-- What a program writes about an error. -/
def complaint (speaker reason : String) : Stream × Bytes :=
  (.errors, Bytes.ofText (speaker ++ ": " ++ reason ++ "\n"))

def fails (speaker reason : String) (status : UInt8) : Ran :=
  ⟨[complaint speaker reason], status⟩

/-- Writes its arguments on a line. -/
def echo : Tool := fun _ _ arguments _ =>
  let flags := arguments.takeWhile fun a => ["-n", "-e", "-E", "-ne", "-en"].contains a
  let words := arguments.dropWhile fun a => ["-n", "-e", "-E", "-ne", "-en"].contains a
  let line := String.intercalate " " words
  let reads := (flags.map String.toList).flatten.contains 'e'
  let ends := !(flags.map String.toList).flatten.contains 'n'
  let (b, stop) := if reads then Template.unescape line else (Bytes.ofText line, false)
  writes (b ++ if ends && !stop then [10] else [])

/-- Writes its arguments on a line, with their escapes read. -/
def echoEscaped : Tool := fun _ _ arguments _ =>
  let words := if arguments.head? = some "-n" then arguments.tail else arguments
  let (b, stop) := Template.unescape (String.intercalate " " words)
  writes (b ++ if arguments.head? = some "-n" || stop then [] else [10])

/-- Fills the template that is its first argument with the others. -/
def printf : Tool := fun speaker _ arguments _ =>
  match arguments with
  | [] => fails speaker "usage: printf format [arg ...]" 2
  | template :: values =>
    let filled := Template.apply template values
    ⟨(.output, filled.written) :: filled.complaints.map (complaint speaker),
      if filled.complaints.isEmpty then 0 else 1⟩

/-- The file without end, all of whose bytes are zero. -/
def zeros : String := "/dev/zero"

/-- Writes its files one after the other, or what it reads. -/
def cat : Tool := fun speaker files arguments input =>
  let parts := (if arguments.isEmpty then ["-"] else arguments).map fun name =>
    if name = "-" then .ok input
    else (files.read name).mapError fun p => name ++ ": " ++ p.text
  { written := parts.map fun
      | .ok b => (.output, b)
      | .error reason => complaint speaker reason
    status := if parts.all fun p => p.toOption.isSome then 0 else 1 }

/-- The first lines of a byte string. -/
def firstLines : Nat → Bytes → Bytes
  | 0, _ => []
  | _, [] => []
  | n + 1, b :: bs => if b = 10 then b :: firstLines n bs else b :: firstLines (n + 1) bs

/-- Writes the start of a file, or of what it reads, counted in bytes or in lines. -/
def head : Tool := fun speaker files arguments input =>
  let start (count : String) (inBytes : Bool) (names : List String) : Ran :=
    match Numeral.readBelow (Numeral.countOf 32) count.toList, names with
    | .error _, _ => fails speaker ("invalid number: '" ++ count ++ "'") 1
    | .ok n, [] => writes (if inBytes then input.take n else firstLines n input)
    | .ok n, name :: _ =>
      if name = zeros && inBytes then writes (List.replicate n 0)
      else match files.read name with
        | .ok b => writes (if inBytes then b.take n else firstLines n b)
        | .error p =>
          fails speaker ("cannot open '" ++ name ++ "' for reading: " ++ p.text) 1
  match arguments with
  | "-c" :: count :: names => start count true names
  | "-n" :: count :: names => start count false names
  | names => start "10" false names

/-- Writes numbers one a line. -/
def seq : Tool := fun speaker _ arguments _ =>
  let numbers := arguments.filterMap fun a =>
    (Numeral.readBelow (Numeral.countOf 32) a.toList).toOption
  let range (first step last : Nat) : Ran :=
    writes (((List.range (last + 1 - first)).filter fun i => i % step = 0).flatMap fun i =>
      Bytes.ofText (toString (first + i) ++ "\n"))
  match numbers with
  | [last] => range 1 1 last
  | [first, last] => range first 1 last
  | [first, step, last] => range first (max step 1) last
  | _ => fails speaker "missing operand" 1

/-- Writes what it reads, with each byte of its first argument replaced by the one of its second. -/
def tr : Tool := fun speaker _ arguments input =>
  match arguments.map fun a => (Template.unescape a).1 with
  | [before, after] =>
    let last := after.getLastD 0
    writes (input.map fun b =>
      match before.idxOf? b with
      | some i => after.getD i last
      | none => b)
  | _ => fails speaker "missing operand" 1

/-- A whole number with an optional sign. -/
def whole? (s : String) : Option Int :=
  match s.toList with
  | '-' :: cs => (Numeral.readBelow (Numeral.countOf 63) cs).toOption.map fun n => -(n : Int)
  | cs => (Numeral.readBelow (Numeral.countOf 63) cs).toOption.map Int.ofNat

/-- Compares two whole numbers as an operator asks. -/
def compares? (operator : String) (a b : Int) : Option Bool :=
  match operator with
  | "-eq" => some (a == b)
  | "-ne" => some (a != b)
  | "-lt" => some (a < b)
  | "-le" => some (a ≤ b)
  | "-gt" => some (b < a)
  | "-ge" => some (b ≤ a)
  | _ => none

/-- Does what the words say hold? -/
def holds? (files : FileSystem) : List String → Option Bool
  | [] => some false
  | [s] => some !s.isEmpty
  | ["!", s] => some s.isEmpty
  | ["-n", s] => some !s.isEmpty
  | ["-z", s] => some s.isEmpty
  | ["-e", path] => some (files.contains path)
  | ["-f", path] =>
    some (match files.find path with
      | .ok (.file _) | .ok (.program _) => true
      | _ => false)
  | ["-r", path] => some (files.contains path)
  | ["-x", path] =>
    some (match files.find path with
      | .ok (.directory _) | .ok (.program _) => true
      | _ => false)
  | ["-d", path] =>
    some (match files.find path with
      | .ok (.directory _) => true
      | _ => false)
  | "!" :: words => (holds? files words).map not
  | [a, "=", b] => some (a == b)
  | [a, "!=", b] => some (a != b)
  | [a, operator, b] => do compares? operator (← whole? a) (← whole? b)
  | _ => none

/-- Succeeds if what its arguments say holds. -/
def test : Tool := fun speaker files arguments _ =>
  match holds? files arguments with
  | some true => silent 0
  | some false => silent 1
  | none => fails speaker "unexpected operator" 2

/-- The same with a closing bracket after the other arguments. -/
def bracket : Tool := fun speaker files arguments input =>
  if arguments.getLast? = some "]" then test speaker files arguments.dropLast input
  else fails speaker "missing ]" 2

/-- The programs by name. -/
def byName : List (String × Tool) :=
  [("true", fun _ _ _ _ => silent 0), ("false", fun _ _ _ _ => silent 1), ("echo", echo),
    ("printf", printf), ("cat", cat), ("head", head), ("seq", seq), ("tr", tr),
    ("sleep", fun _ _ _ _ => silent 0), ("test", test), ("[", bracket)]

end Tool

end HardwareFingerprint.Machine
