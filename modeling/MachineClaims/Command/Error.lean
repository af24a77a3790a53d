import MachineClaims.Failure

/-!
# Why a command failed
-/

namespace MachineClaims.Command

/-- Why a command failed. -/
inductive Error where
  | loadingClaim (name : String) (source : Store.Error)
  | savingClaim (name : String) (source : Store.Error)
  | failed (source : Failure)
  | readingManifest (path cause : String)
  | parsingManifest (path cause : String)
  | updating (kind : Kind) (key : String) (source : Store.Error)
  | creating (kind : Kind) (key : String) (source : Store.Error)
  | store (source : Store.Error)
deriving DecidableEq

end Command

/-- The wording of an error in capacity, followed by those of its causes. -/
def Capacity.Error.chain (e : Capacity.Error) : List String :=
  e.message :: match e with
    | .quantity _ source => [source.message]
    | _ => []

/-- The wording of a failure, followed by those of its causes. -/
def Failure.chain (f : Failure) : List String :=
  f.message :: match f with
    | .store _ source => [source.message]
    | .capacity _ source => source.chain
    | _ => []

/-- The wording of an error, followed by those of its causes. -/
def Command.Error.chain : Command.Error → List String
  | .loadingClaim name source => ["loading claim " ++ name, source.message]
  | .savingClaim name source => ["saving status of claim " ++ name, source.message]
  | .failed source => source.chain
  | .readingManifest path cause => ["reading manifest " ++ path, cause]
  | .parsingManifest path cause => ["parsing manifest " ++ path, cause]
  | .updating kind key source => ["updating " ++ kind.name ++ " " ++ key, source.message]
  | .creating kind key source => ["creating " ++ kind.name ++ " " ++ key, source.message]
  | .store source => [source.message]

end MachineClaims
