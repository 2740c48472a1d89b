import HardwareFingerprint.Bytes.Basic
import HardwareFingerprint.Failure
import HardwareFingerprint.FileTree
import HardwareFingerprint.Text.Blank

/-!
# Running a program

A machine starts a program with arguments and with nothing to read, and keeps what the program
writes until it ends. What it wrote on its output counts only if it exits with status 0. Otherwise
the failure tells how it ended and what it wrote about errors.
-/
namespace HardwareFingerprint

set_option autoImplicit false

namespace Machine

/-- How a program ends: with a status of one byte, or by a signal. -/
inductive Ending where
  | exited (status : UInt8)
  | killed (signal : Nat)
  deriving DecidableEq

/-- The names of the signals, in the order of their numbers from 1 on. -/
def signalNames : List String :=
  ["HUP", "INT", "QUIT", "ILL", "TRAP", "ABRT", "BUS", "FPE", "KILL", "USR1", "SEGV", "USR2",
    "PIPE", "ALRM", "TERM", "STKFLT", "CHLD", "CONT", "STOP", "TSTP", "TTIN", "TTOU", "URG",
    "XCPU", "XFSZ", "VTALRM", "PROF", "WINCH", "IO", "PWR", "SYS"]

def Ending.message : Ending → String
  | .exited status => "exit status: " ++ toString status.toNat
  | .killed signal =>
    "signal: " ++ toString signal ++
      match signalNames[signal - 1]? with
      | some name => " (SIG" ++ name ++ ")"
      | none => ""

/-- What is left of a program that has ended. -/
structure Ended where
  output : Bytes
  errors : Bytes
  ending : Ending

/-- Why a program is not started. -/
inductive StartProblem where
  | unreachable (problem : FileTree.Problem)
  | denied
  | nullByte
  deriving DecidableEq

/-- What is said of a program that is not started. -/
def StartProblem.message : StartProblem → String
  | .unreachable problem => problem.message
  | .denied => "Permission denied (os error 13)"
  | .nullByte => "nul byte found in provided data"

/-- The directories where programs are looked for by their names. -/
def searchPath : List String :=
  ["/usr/bin", "/bin"]

/-- The program that a path leads to. Only programs can be started. -/
def programAt (files : FileSystem) (path : String) : Except StartProblem String :=
  match files.find path with
  | .ok (.program name) => .ok name
  | .ok _ => .error .denied
  | .error p => .error (.unreachable p)

/-- The program that is meant by a path with a slash, or by a name that is looked for. -/
def locate (files : FileSystem) (program : String) : Except StartProblem String :=
  if program.toList.contains '/' then programAt files program
  else if program = "." || program = ".." then .error .denied
  else if FileTree.nameLimit < program.utf8ByteSize then .error (.unreachable .nameTooLong)
  else
    match searchPath.findSome? fun d => (programAt files (Path.join d program)).toOption with
    | some name => .ok name
    | none => .error (.unreachable .absent)

end Machine

/-- What starting a program with arguments comes to. -/
abbrev Machine : Type :=
  String → List String → Except Machine.StartProblem Machine.Ended

namespace Machine

/-- What is said of a program that did not exit with status 0. -/
def Ended.reason (e : Ended) : String :=
  e.ending.message ++ " (" ++ Text.trim (Bytes.lossyText e.errors) ++ ")"

/-- The output of a program that exits with status 0. -/
def capture (machine : Machine) (program : String) (arguments : List String) :
    Except Failure Bytes :=
  match machine program arguments with
  | .error problem => .error (.commandFailed program problem.message)
  | .ok ended =>
    if ended.ending = .exited 0 then .ok ended.output
    else .error (.commandFailed program ended.reason)

end Machine

end HardwareFingerprint
