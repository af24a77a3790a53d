import MachineClaims.Command.Apply
import MachineClaims.Json.Reader
import MachineClaims.Json.Writer
import MachineClaims.MachineType.Json
import MachineClaims.Provider.Create
import MachineClaims.Provider.Delete
import MachineClaims.Provider.Snapshot
import MachineClaims.Readiness
import MachineClaims.Settings

/-!
# Commands

What can be asked for on the command line. A command prints its result as JSON, if it has one, or
says why it failed.
-/

namespace MachineClaims

/-- What can be asked for. -/
inductive Command where
  /-- Keeps capacity classes ready until interrupted. -/
  | serve
  /-- Provides a machine for a stored claim. -/
  | create (claim : String)
  /-- Releases the machine of a stored claim. -/
  | delete (claim : String)
  /-- Shows the claim of the machine with a provider id. -/
  | get (providerId : String)
  /-- Shows the claims of all machines that have been taken. -/
  | list
  /-- Shows the machine types that a class offers. -/
  | machineTypes (className : String)
  /-- Stores the objects of a manifest, of which the path and, if it can be read, the text are
  given. -/
  | apply (path : String) (text : Except String String)

namespace Command

/-- A value as it is printed. -/
def printed (j : Json) : String := j.pretty ++ "\n"

/-- The stored claim with a name. -/
def load (name : String) : Run Claim :=
  request (.get .claim "" name) (.loadingClaim name)

/-- Provides a machine for a stored claim, and stores the claim with its status. -/
def runCreate (p : Provider) (name : String) : Run String := do
  let claim ← act (p.create (← load name))
  let claim ← request (.update .claim claim) (.savingClaim name)
  return printed (Claim.toJson claim)

/-- Stores the objects of a manifest. -/
def runApply (path : String) : Except String String → Run String
  | .error cause => throw (.readingManifest path cause)
  | .ok text => do
    match (Json.read? text).bind Manifest.decode with
    | none => throw (.parsingManifest path "the text is no manifest")
    | some manifest =>
      manifest.apply
      return ""

/-- Keeps capacity classes ready until interrupted. -/
def runServe (s : Settings) (passes : Nat) : Run String := do
  ExceptT.lift (Readiness.run (s.readinessInterval * 1000) passes)
  return ""

/-- Runs a command, and returns what it prints. Showing things does not wait, so that the settings
do not matter there. Serving ends after so many passes. -/
def run (s : Settings) (passes : Nat) : Command → Run String
  | .serve => runServe s passes
  | .create claim => runCreate { Provider.standard with poll := s.poll } claim
  | .delete claim => do
    act (Provider.delete (← load claim))
    return ""
  | .get providerId => do
    return printed (← act (Provider.standard.get providerId)).toJson
  | .list => do
    return printed (.arr ((← act Provider.standard.list).map Claim.toJson))
  | .machineTypes className => do
    let types ← act (Provider.standard.poolTypes className (some className))
    return printed (.arr (types.map MachineType.toJson))
  | .apply path text => runApply path text

end Command
end MachineClaims
