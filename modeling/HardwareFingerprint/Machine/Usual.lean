import HardwareFingerprint.Machine.Shell

/-!
# A usual machine

A machine with the small programs and a shell. A name without a slash is looked for in the
directories of programs; a path with a slash is followed as it is. What is no program is not
started.
-/
namespace HardwareFingerprint.Machine

set_option autoImplicit false

/-- How many shells may be open at once. -/
def maxShells : Nat := 256

/-- The names of the programs of a usual machine. -/
def programNames : List String :=
  Shell.programNames ++ Tool.byName.map Prod.fst

/-- Runs a program, which is called as it was found, if the machine knows how. -/
def start? (files : FileSystem) (calledAs name : String) (arguments : List String) :
    Option Ended :=
  if Shell.programNames.contains name then
    some (runShell files maxShells calledAs arguments []).ended
  else (Tool.byName.lookup name).map fun tool =>
    (Shell.Ran.step (tool calledAs files arguments []) ⟨calledAs, [], [], 0⟩).ended

/-- The machine with some files. -/
def usual (files : FileSystem) : Machine := fun program arguments =>
  if (program :: arguments).any fun s => s.toList.contains '\x00' then .error .nullByte
  else
    match locate files program with
    | .error problem => .error problem
    | .ok name =>
      match start? files program name arguments with
      | some ended => .ok ended
      | none => .error .denied

end HardwareFingerprint.Machine
