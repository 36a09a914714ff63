import Countinghouse.Policy.Document

/-! # Settings

What the service is told when it starts, and how the part that concerns the
ledger is written. -/

set_option autoImplicit false

namespace Countinghouse

structure ServerSettings where
  host : String
  port : Nat
  deriving DecidableEq, Repr

structure DatabaseSettings where
  url : String
  maxConnections : Nat
  minConnections : Nat
  deriving DecidableEq, Repr

structure TokenSettings where
  secret : String
  /-- How long a token is good for, in seconds. -/
  lifetime : Nat
  deriving DecidableEq, Repr

structure LedgerSettings where
  /-- A period closes only once its checklist is complete. -/
  requireChecklist : Bool
  enforcement : Enforcement
  deriving DecidableEq, Repr

structure Settings where
  server : ServerSettings
  database : DatabaseSettings
  token : TokenSettings
  ledger : LedgerSettings
  deriving DecidableEq, Repr

namespace LedgerSettings

def default : LedgerSettings := ⟨true, .block⟩

def record : Json.Record LedgerSettings :=
  LedgerSettings.mk
    <$> Json.Record.orElse "require_close_checklist" Json.asBool default.requireChecklist
    <*> Json.Record.orElse "sod_enforcement" Enforcement.decode default.enforcement

def toJson (s : LedgerSettings) : Json :=
  .obj [("requireCloseChecklist", .bool s.requireChecklist),
    ("sodEnforcement", .str s.enforcement.name)]

end LedgerSettings

def Settings.toJson (s : Settings) : Json :=
  .obj [("server", .obj [("host", .str s.server.host), ("port", .ofNat s.server.port)]),
    ("database", .obj [("url", .str s.database.url),
      ("maxConnections", .ofNat s.database.maxConnections),
      ("minConnections", .ofNat s.database.minConnections)]),
    ("jwt", .obj [("secret", .str s.token.secret),
      ("accessTokenExpirySecs", .ofNat s.token.lifetime)]),
    ("ledger", s.ledger.toJson)]

end Countinghouse
