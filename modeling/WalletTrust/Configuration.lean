import WalletTrust.Environment.Loading
import WalletTrust.Log.Line
import WalletTrust.Store.Location
import WalletTrust.Text.Letter
import WalletTrust.Value.Integer

/-!
# Configuration

What the service takes from its environment. A variable that is blank counts as unset.
-/

namespace WalletTrust

structure Configuration where
  adminAddress : Text.Points
  databaseUrl : Text.Points
  apiHost : Text.Points
  apiPort : Int
  persist : Bool
  deriving DecidableEq, Repr, Inhabited

namespace Configuration

def defaultPath : Text.Points := Text.toPoints "turboauth.db"

def defaultHost : Text.Points := Text.toPoints "0.0.0.0"

def defaultPort : Int := 8000

def trueWords : List Text.Points := ["1", "true", "yes", "on"].map Text.toPoints

def falseWords : List Text.Points := ["0", "false", "no", "off"].map Text.toPoints

/-- The value of a variable, which is empty if the variable is unset. -/
def valueOf (env : Environment) (name : String) : Text.Points := (env.valueOf? name).getD []

def stripped (env : Environment) (name : String) : Text.Points := Text.stripped (valueOf env name)

def orElse (s default : Text.Points) : Text.Points := if s = [] then default else s

/-- The address of the database. The first variable that is set counts, even a blank one; without
an address the database is a file. -/
def databaseUrlOf (env : Environment) : Text.Points :=
  let named := orElse (valueOf env "TURBOAUTH_DB_URL") (valueOf env "DATABASE_URL")
  let path := orElse (stripped env "TURBOAUTH_DB_PATH") defaultPath
  orElse (Text.stripped named) (Text.toPoints "sqlite:///" ++ path)

def portOf (env : Environment) : Int :=
  let raw := stripped env "API_PORT"
  if raw = [] then defaultPort
  else match (Value.ofPoints raw).toInteger with
    | .ok n => n
    | .error _ => defaultPort

/-- Whether the registry is stored. A word that means neither yes nor no means no. -/
def persistOf (env : Environment) : Bool :=
  let raw := Text.lower (stripped env "TURBOAUTH_PERSIST")
  !falseWords.contains raw && (trueWords.contains raw || raw == [])

def ofEnvironment (env : Environment) : Configuration :=
  { adminAddress := stripped env "TURBOAUTH_ADMIN_ADDRESS"
    databaseUrl := databaseUrlOf env
    apiHost := orElse (stripped env "API_HOST") defaultHost
    apiPort := portOf env
    persist := persistOf env }

def levelName (env : Environment) (default : String) : Text.Points :=
  (env.valueOf? "LOG_LEVEL").getD (Text.toPoints default)

def serverLogLevel (env : Environment) : Text.Points := Text.lower (levelName env "info")

/-- A text that is no string names nothing. -/
def nameOf (points : Text.Points) : String := (Text.ofPoints? points).getD ""

def logThreshold (env : Environment) : Except Failure Log.Threshold :=
  let name := nameOf (levelName env "INFO")
  Log.Threshold.ofName (String.ofList (name.toList.flatMap Text.upperAscii))

def logFormat (env : Environment) : Log.Format :=
  let name := (env.valueOf? "LOG_FORMAT").getD (Text.toPoints "json")
  .ofName (nameOf (Text.lower (Text.stripped name)))

def names : List String :=
  ["TURBOAUTH_ADMIN_ADDRESS", "TURBOAUTH_DB_URL", "DATABASE_URL", "TURBOAUTH_DB_PATH",
    "TURBOAUTH_PERSIST", "API_HOST", "API_PORT", "LOG_LEVEL", "LOG_FORMAT"]

/-- The configuration as named fields, without the credentials of the database. -/
def fields (c : Configuration) : List (String × Value) :=
  [("admin_address", .ofPoints c.adminAddress), ("database_url", Store.maskUrl c.databaseUrl),
    ("api_host", .ofPoints c.apiHost), ("api_port", .int c.apiPort), ("persist", .bool c.persist)]

end Configuration
end WalletTrust
