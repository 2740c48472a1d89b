import HardwareFingerprint.Text.Blank
import HardwareFingerprint.Text.Split

/-!
# Paths

A path is a text whose steps are separated by slashes. Joining puts one slash between two paths; an
absolute path replaces what it is joined to.
-/
namespace HardwareFingerprint.Path

set_option autoImplicit false

def isAbsolute (path : String) : Bool :=
  path.toList.head? == some '/'

/-- The second path below the first. -/
def join (base path : String) : String :=
  if isAbsolute path then path
  else if base.isEmpty || base.toList.getLast? == some '/' then base ++ path
  else base ++ "/" ++ path

/-- The path of some steps below a path. -/
def below (base : String) (steps : List String) : String :=
  steps.foldl join base

/-- The steps of a path. A repeated slash counts once. -/
def steps (path : String) : List String :=
  ((Text.splitAt '/' path.toList).filter (!·.isEmpty)).map String.ofList

/-- A path that names a directory by ending in a slash. -/
def endsOpen (path : String) : Bool :=
  path.toList.getLast? == some '/'

/-- The Windows directory where none is named. -/
def defaultWindowsDirectory : String := "C:\\Windows"

/-- The management command below a Windows directory. -/
def commandUnder (directory : String) : String :=
  below directory ["System32", "wbem", "wmic.exe"]

/-- The management command below the Windows directory that the environment names. A blank name
counts as none. -/
def command (windowsDirectory : Option String) : String :=
  match windowsDirectory with
  | some directory =>
    commandUnder (if Text.isAllBlank directory then defaultWindowsDirectory else directory)
  | none => commandUnder defaultWindowsDirectory

/-- The user's configuration directory: the one that the environment names as an absolute path, else
the usual one below the home directory. The home directory is the one that the environment names,
else that of the account. -/
def configDirectory (home account configured : Option String) : Option String :=
  match configured.filter isAbsolute with
  | some directory => some directory
  | none => ((home.filter (!·.isEmpty)).or account).map fun h => join h ".config"

/-- The settings file below a configuration directory. -/
def settingsUnder (directory : String) : String :=
  below directory ["hwprint", "settings.json"]

end HardwareFingerprint.Path
