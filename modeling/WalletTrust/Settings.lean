import WalletTrust.Configuration
import WalletTrust.Environment.Access

/-!
# Settings

Each setting is read on its own, after the file next to the service was loaded once more.
-/

namespace WalletTrust.Configuration

open Environment (Access)

/-- Loads the file, and then reads. -/
def loading {α : Type} (file? : Option String) (f : Environment → α) : Access α := do
  Access.load file?
  Access.read f

def adminAddressOf (env : Environment) : Text.Points := stripped env "TURBOAUTH_ADMIN_ADDRESS"

def apiHostOf (env : Environment) : Text.Points := orElse (stripped env "API_HOST") defaultHost

def settings (file? : Option String) : Access Configuration := do
  let adminAddress ← loading file? adminAddressOf
  let databaseUrl ← loading file? databaseUrlOf
  let apiHost ← loading file? apiHostOf
  let apiPort ← loading file? portOf
  let persist ← loading file? persistOf
  return { adminAddress, databaseUrl, apiHost, apiPort, persist }

inductive Setting where
  | adminAddress
  | databaseUrl
  | apiHost
  | apiPort
  | persist
  deriving DecidableEq, Repr

namespace Setting

def name : Setting → String
  | adminAddress => "admin_address"
  | databaseUrl => "database_url"
  | apiHost => "api_host"
  | apiPort => "api_port"
  | persist => "persist"

def valueIn : Setting → Environment → Value
  | adminAddress, env => .ofPoints (adminAddressOf env)
  | databaseUrl, env => .ofPoints (databaseUrlOf env)
  | apiHost, env => .ofPoints (apiHostOf env)
  | apiPort, env => .int (portOf env)
  | persist, env => .bool (persistOf env)

def get (s : Setting) (file? : Option String) : Access Value := loading file? s.valueIn

def getAll (file? : Option String) : List Setting → Access (List Value)
  | [] => pure []
  | s :: rest => do
    let v ← s.get file?
    let vs ← getAll file? rest
    return v :: vs

end Setting
end WalletTrust.Configuration
