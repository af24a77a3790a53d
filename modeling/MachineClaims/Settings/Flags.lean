import MachineClaims.Settings

/-!
# Flags

A flag takes its value from the next argument or from behind an equals sign, and is given once at
most. Arguments that are no flags, such as the name of a command, are left to the caller.
-/

namespace MachineClaims.Settings

/-- The choices that flags give, and the settings file that they name. -/
structure Flags where
  config : Option String := none
  choices : Choices := {}
  /-- The arguments that are no flags. -/
  words : List String := []
deriving DecidableEq, Repr

namespace Flags

/-- The flags, each with a value except the one that only is there or not. -/
inductive Flag where
  | config
  | dataDir
  | kubeconfig
  | url
  | token
  | caData
  | skipTlsVerify
  | pollInterval
  | pollTimeout
  | readinessInterval
deriving DecidableEq, Repr

namespace Flag

/-- All flags. -/
def all : List Flag :=
  [.config, .dataDir, .kubeconfig, .url, .token, .caData, .skipTlsVerify, .pollInterval,
    .pollTimeout, .readinessInterval]

/-- The name of a flag, after the two dashes. -/
def name : Flag → String
  | .config => "config"
  | .dataDir => "data-dir"
  | .kubeconfig => "cluster-api-kubeconfig"
  | .url => "cluster-api-url"
  | .token => "cluster-api-token"
  | .caData => "cluster-api-certificate-authority-data"
  | .skipTlsVerify => "cluster-api-skip-tls-verify"
  | .pollInterval => "poll-interval-secs"
  | .pollTimeout => "poll-timeout-secs"
  | .readinessInterval => "readiness-interval-secs"

end Flag

/-- Sets what has not been set. -/
def once {α : Type} (old : Option α) (value : Option α) : Option (Option α) :=
  if old.isSome then none else value.map some

/-- A path has to name something. -/
def path? (value : String) : Option String := if value = "" then none else some value

/-- A number of seconds. -/
def seconds? (value : String) : Option Nat := Text.unsignedBits? 64 value.toList

/-- Takes a flag with its value. -/
def take (f : Flags) (flag : Flag) (value : String) : Option Flags := do
  let c := f.choices
  match flag with
  | .config => return { f with config := ← once f.config (path? value) }
  | .dataDir =>
    return { f with choices := { c with dataDir := ← once c.dataDir (path? value) } }
  | .kubeconfig =>
    return { f with choices := { c with kubeconfig := ← once c.kubeconfig (path? value) } }
  | .url => return { f with choices := { c with url := ← once c.url (some value) } }
  | .token => return { f with choices := { c with token := ← once c.token (some value) } }
  | .caData => return { f with choices := { c with caData := ← once c.caData (some value) } }
  | .skipTlsVerify => none
  | .pollInterval =>
    return { f with choices := { c with pollInterval := ← once c.pollInterval (seconds? value) } }
  | .pollTimeout =>
    return { f with choices := { c with pollTimeout := ← once c.pollTimeout (seconds? value) } }
  | .readinessInterval =>
    return { f with
      choices := { c with
        readinessInterval := ← once c.readinessInterval (seconds? value) } }

/-- Whether an argument can be the value of the flag before it. One dash alone can. -/
def isValue (argument : String) : Bool :=
  match argument.toList with
  | '-' :: _ :: _ => false
  | _ => true

/-- Takes arguments in turn. After two dashes alone there are no flags. -/
def read (f : Flags) : List String → Option Flags
  | [] => some f
  | "--" :: words => some { f with words := f.words ++ words }
  | argument :: rest =>
    match argument.toList with
    | '-' :: '-' :: text =>
      let name := String.ofList (text.takeWhile (· ≠ '='))
      match Flag.all.find? (·.name == name), text.dropWhile (· ≠ '=') with
      | some flag, _ :: value => do (← f.take flag (String.ofList value)).read rest
      | some .skipTlsVerify, [] => do
        let skipTlsVerify ← once f.choices.skipTlsVerify (some true)
        read { f with choices := { f.choices with skipTlsVerify } } rest
      | some flag, [] =>
        match rest with
        | value :: rest =>
          if isValue value then do (← f.take flag value).read rest else none
        | [] => none
      | none, _ => none
    | '-' :: _ :: _ => none
    | _ => read { f with words := f.words ++ [argument] } rest

/-- The flags among some arguments, and the other arguments. -/
def parse? (arguments : List String) : Option Flags := read {} arguments

end Flags
end MachineClaims.Settings
