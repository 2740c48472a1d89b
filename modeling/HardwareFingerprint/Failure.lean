import HardwareFingerprint.Json.Fault

/-!
# Failures

Everything that can go wrong in a fingerprint run, by cause. A run as a whole fails only when the
instrumentation service cannot be reached; those failures are fatal, and every other failure leaves
one part of the fingerprint empty.
-/
namespace HardwareFingerprint

set_option autoImplicit false

inductive Failure where
  | io (reason : String)
  | fileRead (path reason : String)
  | serviceConnect (reason : String)
  | serviceOpen (service reason : String)
  | serviceQuery (service reason : String)
  | serviceUnavailable (service : String) (attempts : Nat)
  | versionDetection (reason : String)
  | invalidVersion (version reason : String)
  | commandFailed (command reason : String)
  | queryFailed (cls reason : String)
  | noRecords (cls : String)
  | unexpectedRecord (expected actual : String)
  | encoding (what reason : String)
  | hostIdentity (reason : String)
  | jsonParse (error : Json.Error)
  | invalidConfig (field reason : String)
  | notSupported (reason : String)
  deriving DecidableEq

namespace Failure

def message : Failure → String
  | io reason => "I/O error: " ++ reason
  | fileRead path reason => "Failed to read file " ++ path ++ ": " ++ reason
  | serviceConnect reason => "Failed to connect to service manager: " ++ reason
  | serviceOpen service reason => "Failed to open service " ++ service ++ ": " ++ reason
  | serviceQuery service reason => "Failed to query status of service " ++ service ++ ": " ++ reason
  | serviceUnavailable service attempts =>
    "Service " ++ service ++ " did not reach running state after " ++ toString attempts ++
      " attempts"
  | versionDetection reason => "Failed to determine platform version: " ++ reason
  | invalidVersion version reason =>
    "Invalid version string " ++ Text.quote version ++ ": " ++ reason
  | commandFailed command reason => "Command " ++ command ++ " failed: " ++ reason
  | queryFailed cls reason => "Query for " ++ cls ++ " failed: " ++ reason
  | noRecords cls => "Query for " ++ cls ++ " returned no records"
  | unexpectedRecord expected actual =>
    "Query for " ++ expected ++ " returned a " ++ actual ++ " record"
  | encoding what reason => "Failed to encode " ++ what ++ ": " ++ reason
  | hostIdentity reason => "Host identity lookup failed: " ++ reason
  | jsonParse error => "Failed to parse JSON: " ++ error.message
  | invalidConfig field reason =>
    "Invalid configuration value for " ++ field ++ ": " ++ reason
  | notSupported reason => "Operation not supported: " ++ reason

/-- The text of the failure that lies beneath this one. -/
def beneath : Failure → Option String
  | io reason => some reason
  | fileRead _ reason => some reason
  | jsonParse error => some error.message
  | _ => none

/-- A fatal failure ends the whole run. -/
def isFatal : Failure → Bool
  | serviceConnect _ => true
  | serviceOpen _ _ => true
  | serviceUnavailable _ _ => true
  | _ => false

end Failure

end HardwareFingerprint
