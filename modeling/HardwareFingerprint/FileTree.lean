import HardwareFingerprint.Bytes.Basic
import HardwareFingerprint.Path

/-!
# Reading files

A tree of directories, files and programs, and the directory in which relative paths start. A path
is walked step by step; what goes wrong first is the reason why nothing is read. A program is a file
that can be started, and it is no text.
-/
namespace HardwareFingerprint

set_option autoImplicit false

inductive FileTree where
  | file (contents : Bytes)
  | directory (entries : List (String × FileTree))
  | program (name : String)

namespace FileTree

/-- A directory with nothing in it. -/
def empty : FileTree :=
  directory []

/-- The entry of a directory with a name. -/
def entry? (name : String) : FileTree → Option FileTree
  | directory entries => entries.lookup name
  | _ => none

/-- The tree with a file at the end of some steps. Directories on the way are made. -/
def put (contents : Bytes) : List String → FileTree → FileTree
  | [], _ => file contents
  | name :: names, tree =>
    let others := match tree with
      | directory entries => entries.filter fun e => e.1 ≠ name
      | _ => []
    directory ((name, put contents names ((tree.entry? name).getD empty)) :: others)

/-- Why a path gives no text. Whatever else the system reports comes with its text and number, and
the path may lead to something all the same. -/
inductive Problem where
  | absent
  | notDirectory
  | isDirectory
  | nameTooLong
  | nullInName
  | notText
  | other (reason : String) (code : Nat) (found : Bool)
  deriving DecidableEq

/-- What a problem is called. -/
def Problem.text : Problem → String
  | .absent => "No such file or directory"
  | .notDirectory => "Not a directory"
  | .isDirectory => "Is a directory"
  | .nameTooLong => "File name too long"
  | .nullInName => "file name contained an unexpected NUL byte"
  | .notText => "stream did not contain valid UTF-8"
  | .other reason _ _ => reason

/-- The number of a problem that the system reports. -/
def Problem.code? : Problem → Option Nat
  | .absent => some 2
  | .notDirectory => some 20
  | .isDirectory => some 21
  | .nameTooLong => some 36
  | .nullInName => none
  | .notText => none
  | .other _ code _ => some code

/-- Does the path lead to something that gives no text? -/
def Problem.isFound : Problem → Bool
  | .isDirectory | .notText => true
  | .other _ _ found => found
  | _ => false

def Problem.message (p : Problem) : String :=
  match p.code? with
  | some n => p.text ++ " (os error " ++ toString n ++ ")"
  | none => p.text

/-- The most bytes that one name may have. -/
def nameLimit : Nat := 255

/-- The most bytes that a path may have. -/
def pathLimit : Nat := 4095

/-- What the steps lead to, from a place whose parents are given, the nearest first. -/
def walk : List String → FileTree → List FileTree → Except Problem FileTree
  | [], place, _ => .ok place
  | step :: rest, place, parents =>
    match place with
    | directory entries =>
      if step = "." then walk rest place parents
      else if step = ".." then
        match parents with
        | [] => walk rest place []
        | parent :: others => walk rest parent others
      else if nameLimit < step.utf8ByteSize then .error .nameTooLong
      else match entries.lookup step with
        | none => .error .absent
        | some next => walk rest next (place :: parents)
    | _ => .error .notDirectory

end FileTree

/-- What reading each path gives. -/
abbrev Files : Type :=
  String → Except FileTree.Problem Bytes

namespace Files

/-- Does a path lead to anything? A directory and a program are found, though they give no text. -/
def finds (files : Files) (path : String) : Bool :=
  match files path with
  | .ok _ => true
  | .error p => p.isFound

/-- The text of a file. -/
def readText (files : Files) (path : String) : Except FileTree.Problem String := do
  match Bytes.text? (← files path) with
  | some s => .ok s
  | none => .error .notText

variable {files : Files} {path s : String} {b : Bytes}

theorem readText_of_error {p : FileTree.Problem} (h : files path = .error p) :
    files.readText path = .error p := by
  simp only [readText, h, bind, Except.bind]

theorem readText_of_notText (h : files path = .ok b) (hb : Bytes.text? b = none) :
    files.readText path = .error .notText := by
  simp only [readText, h, bind, Except.bind, hb]

theorem readText_of_text (h : files path = .ok b) (hb : Bytes.text? b = some s) :
    files.readText path = .ok s := by
  simp only [readText, h, bind, Except.bind, hb]

theorem readText_eq_ok_iff : files.readText path = .ok s ↔ files path = .ok (Bytes.ofText s) := by
  constructor
  · intro h
    cases hfile : files path with
    | error p =>
      rw [readText_of_error hfile] at h
      cases h
    | ok b =>
      cases htext : Bytes.text? b with
      | none =>
        rw [readText_of_notText hfile htext] at h
        cases h
      | some text =>
        rw [readText_of_text hfile htext] at h
        obtain rfl := Except.ok.inj h
        rw [Bytes.eq_ofText_of_text? htext]
  · intro h
    exact readText_of_text h (Bytes.text?_ofText s)

end Files

/-- A tree with the steps from its root to the current directory. -/
structure FileSystem where
  root : FileTree
  current : List String

namespace FileSystem

open FileTree (Problem)

/-- What a path leads to. -/
def find (fs : FileSystem) (path : String) : Except Problem FileTree :=
  if path.toList.contains '\x00' then .error .nullInName
  else if path.isEmpty then .error .absent
  else if FileTree.pathLimit < path.utf8ByteSize then .error .nameTooLong
  else
    let steps := if Path.isAbsolute path then Path.steps path else fs.current ++ Path.steps path
    match FileTree.walk steps fs.root [] with
    | .ok (.directory entries) => .ok (.directory entries)
    | .ok place => if Path.endsOpen path then .error .notDirectory else .ok place
    | .error p => .error p

/-- Does the path lead to anything? -/
def contains (fs : FileSystem) (path : String) : Bool :=
  (fs.find path).toOption.isSome

/-- What reading a path gives. -/
def read (fs : FileSystem) : Files := fun path =>
  match fs.find path with
  | .error p => .error p
  | .ok (.directory _) => .error .isDirectory
  | .ok (.program _) => .error .notText
  | .ok (.file b) => .ok b

/-- A usual root, with programs in the two directories where programs are looked for, and a current
directory in which nothing is yet. -/
def usual (programs : List String) : FileSystem :=
  let bin : FileTree := .directory (programs.map fun name => (name, .program name))
  { root := .directory ([("bin", bin), ("usr", .directory [("bin", bin)]),
        ("dev", .directory [("null", .file [])]),
        ("etc", .directory [("hosts", .file (Bytes.ofText "127.0.0.1\tlocalhost\n")),
          ("passwd", .file (Bytes.ofText "root:x:0:0:root:/root:/bin/bash\n"))]),
        ("sys", .directory [("class", .directory [("net", .empty)])]),
        ("tmp", .directory [("scratch", .empty)])] ++
      ["home", "lib", "opt", "proc", "root", "run", "sbin", "srv", "var"].map
        fun name => (name, .empty))
    current := ["tmp", "scratch"] }

/-- The file system with a file at the end of some steps from the current directory. -/
def put (fs : FileSystem) (steps : List String) (contents : Bytes) : FileSystem :=
  { fs with root := fs.root.put contents (fs.current ++ steps) }

end FileSystem

end HardwareFingerprint
