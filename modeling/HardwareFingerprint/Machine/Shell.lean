import HardwareFingerprint.Machine.Basic
import HardwareFingerprint.Machine.Script
import HardwareFingerprint.Machine.Tools

/-!
# Running a script

A shell runs the commands of a script in order. Its words are first replaced by the fields they
expand to, and the first field of a simple command names what is run. A group leaves the shell as
it was but for the status; a signal ends the script as a whole. A script can start further shells,
one within the other to a depth that no ordinary script reaches.
-/
namespace HardwareFingerprint.Machine

set_option autoImplicit false

/-- What a script sees while it runs. -/
structure Shell where
  name : String
  arguments : List String
  bindings : List (String × String)
  status : UInt8

/-- Whether a script goes on. -/
inductive Flow where
  | onward
  | exited
  | killed (signal : Nat)
  deriving DecidableEq

/-- What a command comes to: what it wrote, in order, and what it leaves. -/
structure Step where
  written : List (Stream × Bytes)
  shell : Shell
  flow : Flow

namespace Shell

/-- What stands for the number of the process of a script. -/
def processNumber : String := "1"

/-- The value of a parameter, if it is set. -/
def value? (s : Shell) : Parameter → Option String
  | .variable name => s.bindings.lookup name
  | .position 0 => some s.name
  | .position (n + 1) => s.arguments[n]?
  | .each | .joined => some (String.intercalate " " s.arguments)
  | .count => some (toString s.arguments.length)
  | .status => some (toString s.status.toNat)
  | .process => some processNumber

/-- What a parameter is replaced by. -/
def replacement (s : Shell) (p : Parameter) (fallback : Option Fallback) : String :=
  match s.value? p, fallback with
  | some v, some f => if v.isEmpty && f.forEmpty then f.word else v
  | some v, none => v
  | none, some f => f.word
  | none, none => ""

/-- The fields of a word so far, with the unfinished one. -/
structure Fields where
  done : List (List Char)
  current : Option (List Char)

namespace Fields

def none : Fields :=
  ⟨[], .none⟩

def add (f : Fields) (cs : List Char) : Fields :=
  { f with current := some (f.current.getD [] ++ cs) }

def endField (f : Fields) : Fields :=
  ⟨f.done ++ f.current.toList, .none⟩

/-- Adds characters that are cut at blanks. -/
def addSplit (f : Fields) (cs : List Char) : Fields :=
  cs.foldl (fun f c => if c = ' ' ∨ c = '\t' ∨ c = '\n' then f.endField else f.add [c]) f

def addEach (f : Fields) : List String → Fields
  | [] => f
  | [a] => f.add a.toList
  | a :: as => ((f.add a.toList).endField).addEach as

def toList (f : Fields) : List String :=
  f.endField.done.map String.ofList

end Fields

def expandPiece (s : Shell) (f : Fields) : Piece → Fields
  | .text c _ => f.add [c]
  | .quotes => f.add []
  | .parameter .each _ true => f.addEach s.arguments
  | .parameter p fallback true => f.add (s.replacement p fallback).toList
  | .parameter p fallback false => f.addSplit (s.replacement p fallback).toList

/-- The fields that a word expands to. All arguments in quotes are no field where there are none. -/
def expand (s : Shell) (w : Word) : List String :=
  if s.arguments.isEmpty ∧ w = [.quotes, .parameter .each none true] then []
  else (w.foldl s.expandPiece Fields.none).toList

def quotedPiece : Piece → Piece
  | .text c _ => .text c true
  | .parameter p fallback _ => .parameter p fallback true
  | .quotes => .quotes

/-- The one field that a word expands to where fields are not cut. -/
def expandWhole (s : Shell) (w : Word) : String :=
  String.intercalate " " (s.expand (w.map quotedPiece))

def set (s : Shell) (name value : String) : Shell :=
  { s with bindings := (name, value) :: s.bindings }

def assign (s : Shell) (assignments : List (String × Word)) : Shell :=
  assignments.foldl (fun s a => s.set a.1 (s.expandWhole a.2)) s

/-- How a shell calls itself in what it writes about errors on a line. -/
def speaker (s : Shell) (line : Nat) : String :=
  s.name ++ ": " ++ toString line

def Ran.step (r : Ran) (s : Shell) : Step :=
  ⟨r.written, { s with status := r.status }, .onward⟩

def complains (s : Shell) (line : Nat) (reason : String) (status : UInt8) (flow : Flow) : Step :=
  ⟨[Tool.complaint (s.speaker line) reason], { s with status }, flow⟩

/-- The number of a signal that is named by its number or its name. -/
def signal? (name : String) : Option Nat :=
  match (Numeral.readBelow 32 name.toList).toOption with
  | some n => some n
  | none => (signalNames.idxOf? name).map (· + 1)

/-- The signals that end nothing: the one of no effect, and those that are ignored. -/
def harmless : List Nat :=
  [0, 17, 18, 23, 28]

/-- Sends a signal to the script itself. -/
def kill (s : Shell) (line : Nat) (arguments : List String) : Step :=
  let send (name target : String) : Step :=
    match signal? name with
    | none => s.complains line ("kill: Illegal option -" ++ name) 2 .onward
    | some n =>
      if target ≠ processNumber then s.complains line "kill: No such process" 1 .onward
      else ⟨[], { s with status := 0 }, if harmless.contains n then .onward else .killed n⟩
  match arguments with
  | [target] => send "TERM" target
  | ["-s", name, target] => send name target
  | [option, target] => send (String.ofList (option.toList.drop 1)) target
  | _ => s.complains line "kill: Usage: kill [-s sigspec] pid" 2 .onward

/-- Ends the script, with the status of the command before if none is given. -/
def exit (s : Shell) (line : Nat) (arguments : List String) : Step :=
  match arguments with
  | [] => ⟨[], s, .exited⟩
  | status :: _ =>
    match Numeral.readBelow (Numeral.countOf 31) status.toList with
    | .ok n => ⟨[], { s with status := UInt8.ofNat n }, .exited⟩
    | .error _ => s.complains line ("exit: Illegal number: " ++ status) 2 .exited

/-- The programs that a shell runs by itself. -/
def builtIn : List (String × Tool) :=
  [("echo", Tool.echoEscaped), (":", fun _ _ _ _ => Tool.silent 0)] ++
    Tool.byName.filter fun t => ["printf", "true", "false", "test", "["].contains t.1

/-- The names of the shell as a program. -/
def programNames : List String :=
  ["sh", "dash"]

/-- What a shell comes to that is started under a name, with arguments and something to read. -/
abbrev Starter : Type :=
  String → List String → Bytes → Step

/-- The status that tells of how a program ended: one that was killed adds the number of the signal
to 128. -/
def statusOf (step : Step) : UInt8 :=
  match step.flow with
  | .killed n => UInt8.ofNat (128 + n)
  | _ => step.shell.status

/-- Runs what the first field names. -/
def call (files : FileSystem) (shells : Starter) (s : Shell) (line : Nat) (input : Bytes) :
    List String → Step
  | [] => ⟨[], { s with status := 0 }, .onward⟩
  | "exit" :: arguments => s.exit line arguments
  | "kill" :: arguments => s.kill line arguments
  | ["shift"] => ⟨[], { s with arguments := s.arguments.tail, status := 0 }, .onward⟩
  | "set" :: "--" :: arguments => ⟨[], { s with arguments, status := 0 }, .onward⟩
  | ["read", name] =>
    let l := s.set name (Bytes.lossyText (input.takeWhile (· ≠ 10)))
    ⟨[], { l with status := if input.contains 10 then 0 else 1 }, .onward⟩
  | "exec" :: name :: arguments =>
    let step := call files shells s line input (name :: arguments)
    { step with flow := if step.flow = .onward then .exited else step.flow }
  | name :: arguments =>
    match builtIn.lookup name with
    | some tool => Ran.step (tool (s.speaker line ++ ": " ++ name) files arguments input) s
    | none =>
      match locate files name with
      | .error .denied => s.complains line (name ++ ": Permission denied") 126 .onward
      | .error (.unreachable .nameTooLong) =>
        s.complains line (name ++ ": File name too long") 127 .onward
      | .error _ => s.complains line (name ++ ": not found") 127 .onward
      | .ok program =>
        match Tool.byName.lookup program with
        | some tool => Ran.step (tool name files arguments input) s
        | none =>
          if programNames.contains program then
            let inner := shells name arguments input
            ⟨inner.written, { s with status := statusOf inner }, .onward⟩
          else s.complains line (name ++ ": Permission denied") 126 .onward

/-- Where the two streams of a command lead, if anywhere. -/
structure Routes where
  output : Option Stream
  errors : Option Stream

def Routes.straight : Routes :=
  ⟨some .output, some .errors⟩

def Routes.lead (r : Routes) : Stream → Option Stream
  | .output => r.output
  | .errors => r.errors

/-- The routes with a stream led elsewhere. -/
def Routes.set (r : Routes) (stream : Nat) (target : Option Stream) : Routes :=
  if stream = 1 then { r with output := target }
  else if stream = 2 then { r with errors := target }
  else r

/-- The routes and the input after a redirection, or what is wrong with it. What is written to any
other file is not kept. -/
def redirect (files : FileSystem) (s : Shell) (state : Routes × Bytes) (r : Redirect) :
    Except String (Routes × Bytes) :=
  let (routes, input) := state
  match r.target with
  | .stream 1 => .ok (routes.set r.stream routes.output, input)
  | .stream 2 => .ok (routes.set r.stream routes.errors, input)
  | .stream n => .error (toString n ++ ": Bad file descriptor")
  | .file w =>
    let name := s.expandWhole w
    if r.isInput then
      match files.read name with
      | .ok b => .ok (routes, if r.stream = 0 then b else input)
      | .error _ => .error ("cannot open " ++ name ++ ": No such file")
    else if name = "/dev/stdout" then .ok (routes.set r.stream routes.output, input)
    else if name = "/dev/stderr" then .ok (routes.set r.stream routes.errors, input)
    else .ok (routes.set r.stream none, input)

/-- What a command wrote, led along the routes. -/
def Routes.apply (r : Routes) (written : List (Stream × Bytes)) : List (Stream × Bytes) :=
  written.filterMap fun w => (r.lead w.1).map fun stream => (stream, w.2)

/-- The bytes of one stream. -/
def bytesOf (stream : Stream) (written : List (Stream × Bytes)) : Bytes :=
  (written.filter fun w => w.1 = stream).flatMap Prod.snd

/-- A step of a group: the script around it goes on with its status. -/
def leave (outer : Shell) (step : Step) : Step where
  written := step.written
  shell := { outer with status := step.shell.status }
  flow := match step.flow with
    | .killed n => .killed n
    | _ => .onward

/-- A step followed by another, if the script goes on. -/
def andThen (step : Step) (next : Shell → Step) : Step :=
  if step.flow = .onward then
    let more := next step.shell
    { more with written := step.written ++ more.written }
  else step

/-- Runs a command that reads the given bytes. -/
def run (files : FileSystem) (shells : Starter) : Command → Bytes → Shell → Step
  | .nothing, _, s => ⟨[], s, .onward⟩
  | .simple line assignments words, input, s =>
    let fields := words.flatMap s.expand
    if fields.isEmpty then ⟨[], { s.assign assignments with status := 0 }, .onward⟩
    else call files shells s line input fields
  | .redirected c redirects, input, s =>
    match redirects.foldlM (redirect files s) (Routes.straight, input) with
    | .error reason => s.complains 1 reason 2 .onward
    | .ok (routes, input) =>
      let step := run files shells c input s
      { step with written := routes.apply step.written }
  | .pipe a b, input, s =>
    let first := leave s (run files shells a input s)
    let second := leave s (run files shells b (bytesOf .output first.written) s)
    let errors := first.written.filter fun w => w.1 = .errors
    { second with
      written := errors ++ second.written
      flow := match first.flow with
        | .killed n => .killed n
        | _ => second.flow }
  | .both a b, input, s =>
    andThen (run files shells a input s) fun s =>
      if s.status = 0 then run files shells b input s else ⟨[], s, .onward⟩
  | .either a b, input, s =>
    andThen (run files shells a input s) fun s =>
      if s.status = 0 then ⟨[], s, .onward⟩ else run files shells b input s
  | .next a b, input, s => andThen (run files shells a input s) (run files shells b input)
  | .negated c, input, s =>
    andThen (run files shells c input s) fun s =>
      ⟨[], { s with status := if s.status = 0 then 1 else 0 }, .onward⟩
  | .choice test yes no, input, s =>
    andThen (run files shells test input s) fun s =>
      if s.status = 0 then run files shells yes input s
      else run files shells no input { s with status := 0 }
  | .round name words body, input, s =>
    let items := match words with
      | some ws => ws.flatMap s.expand
      | none => s.arguments
    items.foldl
      (fun step item => andThen step fun s => run files shells body input (s.set name item))
      ⟨[], { s with status := 0 }, .onward⟩
  | .group c, input, s => leave s (run files shells c input s)

end Shell

/-- What is left of a script that has ended. -/
def Step.ended (step : Step) : Ended where
  output := Shell.bytesOf .output step.written
  errors := Shell.bytesOf .errors step.written
  ending := match step.flow with
    | .killed n => .killed n
    | _ => .exited step.shell.status

/-- Runs a script under a name with arguments and something to read. -/
def runScript (files : FileSystem) (shells : Shell.Starter) (name script : String)
    (arguments : List String) (input : Bytes) : Step :=
  let shell : Shell := ⟨name, arguments, [], 0⟩
  match Script.read script with
  | .ok c => Shell.run files shells c input shell
  | .error p => ⟨[Tool.complaint (shell.speaker 1) p.message], { shell with status := 2 }, .exited⟩

/-- Runs a shell: a script that is given as an argument, with a name and arguments of its own after
it, or what there is to read. So many further shells may be open at once. -/
def runShell (files : FileSystem) : Nat → Shell.Starter
  | 0, calledAs, _, _ => Shell.complains ⟨calledAs, [], [], 0⟩ 0 "Cannot fork" 2 .exited
  | depth + 1, calledAs, arguments, input =>
    let run := runScript files (runShell files depth)
    let refuse (reason : String) := Shell.complains ⟨calledAs, [], [], 0⟩ 0 reason 2 .exited
    match arguments with
    | [] => run calledAs (Bytes.lossyText input) [] []
    | "-c" :: script :: name :: rest => run name script rest input
    | ["-c", script] => run calledAs script [] input
    | ["-c"] => refuse "-c requires an argument"
    | file :: _ => refuse ("cannot open " ++ file ++ ": No such file")

end HardwareFingerprint.Machine
