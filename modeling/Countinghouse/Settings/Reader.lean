import Countinghouse.Settings.Basic
import Countinghouse.Settings.Tree

/-! # Reading settings

The sections of a tree of settings.  A section is a table of its fields, or a list
of them in the order in which they are declared; fields that are left out have
defaults, all but the address of the database and the secret of the tokens. -/

set_option autoImplicit false

namespace Countinghouse

namespace ServerSettings

def read? (s : Setting) : Option ServerSettings := do
  guard s.isSection
  let host ← s.read? 0 "host" (Setting.asScalar? fun v => some v.asText) (some "0.0.0.0")
  let port ← s.read? 1 "port" (Setting.asScalar? (Scalar.asCount? (2 ^ 16))) (some 8080)
  return ⟨host, port⟩

end ServerSettings

namespace DatabaseSettings

def read? (s : Setting) : Option DatabaseSettings := do
  guard s.isSection
  let connections := Setting.asScalar? (Scalar.asCount? (2 ^ 32))
  let url ← s.read? 0 "url" (Setting.asScalar? fun v => some v.asText) none
  let maxConnections ← s.read? 1 "max_connections" connections (some 10)
  let minConnections ← s.read? 2 "min_connections" connections (some 1)
  return ⟨url, maxConnections, minConnections⟩

end DatabaseSettings

namespace TokenSettings

def read? (s : Setting) : Option TokenSettings := do
  guard s.isSection
  let secret ← s.read? 0 "secret" (Setting.asScalar? fun v => some v.asText) none
  let lifetime ← s.read? 1 "access_token_expiry_secs"
    (Setting.asScalar? (Scalar.asCount? (2 ^ 64))) (some 900)
  return ⟨secret, lifetime⟩

end TokenSettings

namespace LedgerSettings

def read? (s : Setting) : Option LedgerSettings := do
  guard s.isSection
  let requireChecklist ← s.read? 0 "require_close_checklist" (Setting.asScalar? Scalar.asBool?)
    (some default.requireChecklist)
  let enforcement ← s.read? 1 "sod_enforcement" (fun v => v.asName?.bind Enforcement.ofName?)
    (some default.enforcement)
  return ⟨requireChecklist, enforcement⟩

end LedgerSettings

namespace Settings

/-- The settings that a tree holds.  The sections of the server, the database and the
tokens have to be there, even if they are empty. -/
def ofTree? (s : Setting) : Option Settings := do
  let server ← (s.key? "server").bind ServerSettings.read?
  let database ← (s.key? "database").bind DatabaseSettings.read?
  let token ← (s.key? "jwt").bind TokenSettings.read?
  let ledger ← match s.key? "ledger" with
    | some value => LedgerSettings.read? value
    | none => some LedgerSettings.default
  return ⟨server, database, token, ledger⟩

end Settings

end Countinghouse
