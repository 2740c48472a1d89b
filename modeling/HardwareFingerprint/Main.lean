import HardwareFingerprint.Program

/-!
# The command line program

Takes the arguments and the environment, reads the settings file that the run asks for, and writes
what the run leaves behind.
-/
namespace HardwareFingerprint.Program

set_option autoImplicit false

/-- What reading a path gives here and now. -/
def readNow (path : String) : IO (Except FileTree.Problem Bytes) := do
  try
    let contents ← IO.FS.readBinFile path
    pure (.ok contents.data.toList)
  catch e =>
    match e with
    | .inappropriateType .. => pure (.error .isDirectory)
    | .permissionDenied _ code reason => pure (.error (.other reason code.toNat true))
    | _ => pure (.error .absent)

/-- The program as it is called. -/
def start (arguments : List String) : IO UInt32 := do
  let home ← IO.getEnv "HOME"
  let configured ← IO.getEnv "XDG_CONFIG_HOME"
  let configDirectory := Path.configDirectory home none configured
  let path? := settingsPath? configDirectory arguments
  let contents ← match path? with
    | some path => readNow path
    | none => pure (.error .absent)
  let exit := outcome
    { files := fun asked => if path? = some asked then contents else .error .absent
      configDirectory
      logFilter := ← IO.getEnv "RUST_LOG"
      windowsDirectory := ← IO.getEnv "WINDIR"
      system := "linux" }
    arguments
  (← IO.getStdout).putStr exit.output
  (← IO.getStderr).putStr exit.errors
  pure (UInt32.ofNat exit.code)

end HardwareFingerprint.Program

def main (arguments : List String) : IO UInt32 :=
  HardwareFingerprint.Program.start arguments
