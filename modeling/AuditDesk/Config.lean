import AuditDesk.Service.Policy
import AuditDesk.Text.Blank

/-!
Settings taken from variables of the environment. A variable that is blank counts as unset; what is
not a number is taken over as it stands.
-/
namespace AuditDesk

structure Config where
  apiUrl : String
  /-- The token of the environment; a stored one is looked up later. -/
  apiToken : Option String
  policy : PollPolicy
  /-- Seconds; without a limit requests may take for ever. -/
  requestTimeout : Option Nat
  /-- Nothing when the platform's directory is to be used. -/
  dataDir : Option String
  exportDir : String
  /-- The simulated service is used. -/
  offline : Bool
  /-- Nothing is kept after the run. -/
  ephemeral : Bool
deriving DecidableEq

/-- A variable that should hold a positive number does not. -/
structure ConfigError where
  variableName : String
  value : String
deriving DecidableEq

def ConfigError.message (e : ConfigError) : String :=
  e.variableName ++ " must be a positive integer, got '" ++ e.value ++ "'"

namespace Config

def defaultApiUrl : String := "http://localhost:5000"

def databaseName : String := "contract-auditor.db"
def logName : String := "contract-auditor.log"

/-- The number that decimal digits denote. -/
def digitsValue? : List Char → Option Nat
  | [] => none
  | cs =>
      if cs.all Char.isDigit then
        some (cs.foldl (fun value c => value * 10 + (c.toNat - 48)) 0)
      else none

/-- Decimal digits with an optional plus sign. -/
def unsignedValue? : List Char → Option Nat
  | '+' :: cs => digitsValue? cs
  | cs => digitsValue? cs

/-- A whole number from 1 to `most`, surrounded by any white space. -/
def positive (name : String) (most : Nat) (raw : String) : Except ConfigError Nat :=
  match unsignedValue? (Text.trimChars raw.toList) with
  | some n => if 0 < n && n ≤ most then .ok n else .error ⟨name, raw⟩
  | none => .error ⟨name, raw⟩

def greatestWord : Nat := 18446744073709551615
def greatestAttempts : Nat := 4294967295

def apiUrlName : String := "AUDITOR_API_URL"
def apiTokenName : String := "AUDITOR_API_TOKEN"
def pollIntervalName : String := "AUDITOR_POLL_INTERVAL_MS"
def pollAttemptsName : String := "AUDITOR_MAX_POLL_ATTEMPTS"
def requestTimeoutName : String := "AUDITOR_REQUEST_TIMEOUT_SECS"
def dataDirName : String := "AUDITOR_DATA_DIR"
def exportDirName : String := "AUDITOR_EXPORT_DIR"

/-- The variables that settings are read from. -/
def variableNames : List String :=
  [apiUrlName, apiTokenName, pollIntervalName, pollAttemptsName, requestTimeoutName, dataDirName,
    exportDirName]

/-- Reads the settings from a lookup of variables. -/
def ofLookup (lookup : String → Option String) : Except ConfigError Config := do
  let var (name : String) : Option String := (lookup name).filter fun v => !Text.allBlank v
  let number (name : String) (most : Nat) : Except ConfigError (Option Nat) :=
    match var name with
    | some raw => do return some (← positive name most raw)
    | none => .ok none
  let interval ← number pollIntervalName greatestWord
  let attempts ← number pollAttemptsName greatestAttempts
  let timeout ← number requestTimeoutName greatestWord
  return {
    apiUrl := (var apiUrlName).getD defaultApiUrl
    apiToken := var apiTokenName
    policy :=
      ⟨interval.getD PollPolicy.standard.interval, attempts.getD PollPolicy.standard.attempts⟩
    requestTimeout := timeout
    dataDir := var dataDirName
    exportDir := (var exportDirName).getD "."
    offline := false
    ephemeral := false }

end Config

end AuditDesk
