import MachineClaims.Command
import MachineClaims.Connection
import MachineClaims.Settings.Flags
import Std.Time.DateTime.Timestamp

/-!
# The command line

Reads settings and the store, runs one command on it and prints what it gives. The store is kept in
one file of the data directory, as a manifest with versions, and written again after each change.
-/

namespace MachineClaims.Main

/-- A store in a file. -/
structure Disk where
  path : String
  store : IO.Ref Store

/-- Writes a store that has changed. -/
def Disk.save (d : Disk) (s : Store) : IO Unit := do
  if s ≠ (← d.store.get) then
    d.store.set s
    IO.FS.writeFile d.path (Manifest.ofStore s).toJson.line

/-- Opens the store in a directory. -/
def openDir (dir : String) : IO (Except Settings.Error Disk) := do
  try IO.FS.createDirAll dir catch e => return .error (.creatingDataDir dir (toString e))
  let path := dir ++ "/fleet.json"
  let text ←
    try IO.FS.readFile path
    catch
      | .noFileOrDirectory .. => pure "\x7b\x7d"
      | e => return .error (.store (.fault .opening (toString e)))
  match (Json.read? text).bind Manifest.decode with
  | some manifest => return .ok ⟨path, ← IO.mkRef manifest.toStore⟩
  | none => return .error (.store (.fault .opening "the file holds no store"))

/-- The longest time to sleep at once, in milliseconds. -/
def longest : Nat := 1000000000

/-- Answers a request. Nobody else uses the store, and nobody cancels. -/
def answer (d : Disk) : (r : Request) → IO r.Answer
  | .call c => do
    let (result, s) := c.perform (← d.store.get)
    d.save s
    return result
  | .store op => do
    let (result, s) := op.perform (← d.store.get)
    d.save s
    return result
  | .clock => do
    return (← Std.Time.Timestamp.now).toSecondsSinceUnixEpoch.val.toNat
  | .instant past => do
    return ⟨max past (← IO.monoMsNow), Nat.le_max_left ..⟩
  | .deadline time => do
    if Request.lastInstant < time then throw (IO.userError "overflow when adding duration to instant")
  | .cancelled => return false
  | .pause ms => do
    for _ in [0:ms / longest] do IO.sleep longest.toUInt32
    IO.sleep (ms % longest).toUInt32
    return false
  | .lock => return true
  | .unlock => return ()

/-- Runs a program. -/
def execute {α : Type} (d : Disk) : Program α → IO α
  | .done a => return a
  | .ask r next => do execute d (next (← answer d r))

/-- The settings that flags and the settings file give. -/
def settings (flags : Settings.Flags) : IO (Except Settings.Error Settings) := do
  match flags.config with
  | none => return Settings.ofChoices flags.choices
  | some path =>
    try
      match Choices.ofFile? (← IO.FS.readFile path) with
      | some choices => return Settings.ofChoices (flags.choices.orElse choices)
      | none => return .error (.parsing path "the text does not hold settings")
    catch e => return .error (.reading path (toString e))

/-- The command that words ask for. -/
def command? : List String → IO (Option Command)
  | ["serve"] => return some .serve
  | ["create", claim] => return some (.create claim)
  | ["delete", claim] => return some (.delete claim)
  | ["get", providerId] => return some (.get providerId)
  | ["list"] => return some .list
  | ["instance-types", className] => return some (.machineTypes className)
  | ["apply", path] => do
    try return some (.apply path (.ok (← IO.FS.readFile path)))
    catch e => return some (.apply path (.error (toString e)))
  | _ => return none

/-- Prints an error with its causes. -/
def complain (texts : List String) : IO UInt32 := do
  for text in texts do IO.eprintln text
  return 1

def usage : String :=
  "usage: [flags] serve | create <claim> | delete <claim> | get <provider id> | list | " ++
    "instance-types <class> | apply <file>"

/-- Runs the command that arguments ask for. -/
def run (arguments : List String) : IO UInt32 := do
  let some flags := Settings.Flags.parse? arguments | complain [usage]
  let some command ← command? flags.words | complain [usage]
  let opened ← ExceptT.run do
    let s ← ExceptT.mk (settings flags)
    let c ← ExceptT.mk (pure (Connection.ofSettings s))
    return (s, ← ExceptT.mk (c.openWith openDir))
  match opened with
  | .error e => complain [e.message]
  | .ok (s, disk) =>
    match ← execute disk (command.run s (Nat.pow 2 64)).run with
    | .ok text => do
      IO.print text
      return 0
    | .error e => complain e.chain

end MachineClaims.Main

def main (arguments : List String) : IO UInt32 := MachineClaims.Main.run arguments
