import MachineClaims.Settings

/-!
# Where the objects are kept

A kubeconfig comes before a URL, and without either the objects are kept in a store of one's own,
which is the only kind that can be opened.
-/

namespace MachineClaims

/-- Where the objects are kept. -/
inductive Connection where
  | kubeconfig (path : String)
  | endpoint (url : String) (token caData : Option String) (skipTlsVerify : Bool)
  | embedded (dataDir : String)
deriving DecidableEq, Repr

namespace Connection

/-- Where settings say that the objects are kept. -/
def ofSettings (s : Settings) : Except Settings.Error Connection :=
  match s.url, s.token, s.caData, s.kubeconfig with
  | none, some _, _, _ => .error (.missingUrl .token)
  | none, none, some _, _ => .error (.missingUrl .caData)
  | _, _, _, some path => .ok (.kubeconfig path)
  | some url, token, caData, none => .ok (.endpoint url token caData s.skipTlsVerify)
  | none, none, none, none => .ok (.embedded s.dataDir)

/-- A description without secrets. -/
def describe : Connection → String
  | .kubeconfig path => "kubeconfig " ++ path
  | .endpoint url _ _ false => "endpoint " ++ url
  | .endpoint url _ _ true => "endpoint " ++ url ++ " (tls verification disabled)"
  | .embedded dataDir => "embedded store in " ++ dataDir

/-- Opens the store of a connection, given a way to open the one in a directory. -/
def openWith {m : Type → Type} [Monad m] {α : Type}
    (openDir : String → m (Except Settings.Error α)) (c : Connection) :
    m (Except Settings.Error α) :=
  match c with
  | .embedded dataDir => openDir dataDir
  | _ => return .error (.unsupported c.describe)

end Connection
end MachineClaims
