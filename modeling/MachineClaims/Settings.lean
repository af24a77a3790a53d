import MachineClaims.Json.Decoder
import MachineClaims.Poll
import MachineClaims.Store
import MachineClaims.Toml

/-!
# Settings

Each setting may be chosen by a flag or in a file, where the flag counts more, and has a value
otherwise. Times are given in whole seconds and cannot be zero.
-/

namespace MachineClaims

/-- The settings that somebody has chosen. -/
structure Choices where
  dataDir : Option String := none
  kubeconfig : Option String := none
  url : Option String := none
  token : Option String := none
  caData : Option String := none
  skipTlsVerify : Option Bool := none
  pollInterval : Option Nat := none
  pollTimeout : Option Nat := none
  readinessInterval : Option Nat := none
deriving DecidableEq, Repr

namespace Choices

/-- The choices of one who is heard first and of one who is heard second. -/
def orElse (a b : Choices) : Choices where
  dataDir := a.dataDir <|> b.dataDir
  kubeconfig := a.kubeconfig <|> b.kubeconfig
  url := a.url <|> b.url
  token := a.token <|> b.token
  caData := a.caData <|> b.caData
  skipTlsVerify := a.skipTlsVerify <|> b.skipTlsVerify
  pollInterval := a.pollInterval <|> b.pollInterval
  pollTimeout := a.pollTimeout <|> b.pollTimeout
  readinessInterval := a.readinessInterval <|> b.readinessInterval

open Json.Decoder in
/-- Choices written as an object. -/
def decode : Json.Decoder Choices :=
  closedRecord ["data_dir", "cluster_api_kubeconfig", "cluster_api_url", "cluster_api_token",
      "cluster_api_certificate_authority_data", "cluster_api_skip_tls_verify",
      "poll_interval_secs", "poll_timeout_secs", "readiness_interval_secs"] do
    let dataDir ← optional "data_dir" string
    let kubeconfig ← optional "cluster_api_kubeconfig" string
    let url ← optional "cluster_api_url" string
    let token ← optional "cluster_api_token" string
    let caData ← optional "cluster_api_certificate_authority_data" string
    let skipTlsVerify ← optional "cluster_api_skip_tls_verify" boolean
    let pollInterval ← optional "poll_interval_secs" (unsigned 64)
    let pollTimeout ← optional "poll_timeout_secs" (unsigned 64)
    let readinessInterval ← optional "readiness_interval_secs" (unsigned 64)
    return {
      dataDir, kubeconfig, url, token, caData, skipTlsVerify
      pollInterval, pollTimeout, readinessInterval }

/-- The choices that a settings file writes. -/
def ofFile? (text : String) : Option Choices := do decode (← Toml.read? text)

end Choices

/-- The settings in force. -/
structure Settings where
  dataDir : String
  kubeconfig : Option String
  url : Option String
  token : Option String
  caData : Option String
  skipTlsVerify : Bool
  /-- Seconds between checks for a new machine. -/
  pollInterval : Nat
  /-- Seconds to wait for a new machine. -/
  pollTimeout : Nat
  /-- Seconds between passes over the capacity classes. -/
  readinessInterval : Nat
deriving DecidableEq, Repr

namespace Settings

/-- A flag that is of use only together with a URL. -/
inductive Credential where
  | token
  | caData
deriving DecidableEq, Repr

def Credential.name : Credential → String
  | .token => "token"
  | .caData => "certificate-authority-data"

/-- Why a program cannot start with its settings. -/
inductive Error where
  | reading (path cause : String)
  | parsing (path cause : String)
  /-- A time of zero seconds. -/
  | zero (setting : String)
  | missingUrl (credential : Credential)
  /-- Only the embedded store can be opened. -/
  | unsupported (connection : String)
  | creatingDataDir (path cause : String)
  | store (source : Store.Error)
deriving DecidableEq

def Error.message : Error → String
  | .reading path cause => "reading config file " ++ path ++ ": " ++ cause
  | .parsing path cause => "parsing config file " ++ path ++ ": " ++ cause
  | .zero setting => "invalid configuration: " ++ setting ++ " must be greater than zero"
  | .missingUrl credential =>
    "--cluster-api-" ++ credential.name ++ " requires --cluster-api-url"
  | .unsupported connection =>
    "management cluster " ++ connection ++
      " is not supported by this build; drop the connection flags to use the embedded store"
  | .creatingDataDir path cause => "creating data directory " ++ path ++ ": " ++ cause
  | .store source => source.message

/-- A time that has to be more than zero. -/
def positive (setting : String) : Nat → Except Error Nat
  | 0 => .error (.zero setting)
  | n => .ok n

/-- The settings that choices give. An empty text counts as none where there may be none. -/
def ofChoices (c : Choices) : Except Error Settings := do
  let pollInterval ← positive "poll interval" (c.pollInterval.getD 1)
  let pollTimeout ← positive "poll timeout" (c.pollTimeout.getD 60)
  let readinessInterval ← positive "readiness interval" (c.readinessInterval.getD 30)
  return {
    dataDir := c.dataDir.getD "/var/lib/fleetgrid"
    kubeconfig := c.kubeconfig.filter (· ≠ "")
    url := c.url.filter (· ≠ "")
    token := c.token.filter (· ≠ "")
    caData := c.caData.filter (· ≠ "")
    skipTlsVerify := c.skipTlsVerify.getD false
    pollInterval, pollTimeout, readinessInterval }

/-- How a provider is to wait for machines. -/
def poll (s : Settings) : Poll := ⟨s.pollInterval * 1000, s.pollTimeout * 1000⟩

end Settings
end MachineClaims
