import WideColumn.Host
import WideColumn.Toml.Document

/-!
# Config files

A config file is a document of keys and values. Every key may be missing, and keys that mean nothing
here are passed over, but a value of the wrong kind or out of range makes the file invalid as a
whole.

Main definitions: `ConnectionConfig`, `ConfigFile`, `ConfigFile.parse?`, `SettingsError`,
`ConfigFile.discover`.
-/

namespace WideColumn

/-- What a source of settings says about the keyspace and the way to the cluster. -/
structure ConnectionConfig where
  keyspace : Option String := none
  contactPoints : List String := []
  port : Option UInt16 := none
  localDataCenter : Option String := none
  username : Option String := none
  password : Option String := none
  deriving DecidableEq

/-- What a config file says. -/
structure ConfigFile where
  connection : ConnectionConfig := {}
  outDir : Option String := none
  formatter : Option String := none
  /-- How long a connection may take, in seconds. -/
  connectTimeout : Option UInt64 := none
  /-- How long a request may take, in seconds. -/
  requestTimeout : Option UInt64 := none
  deriving DecidableEq

/-! ## Errors -/

/-- Why there are no settings to run with. -/
inductive SettingsError where
  | missingKeyspace
  | missingContactPoints
  | missingDataCenter
  /-- There is a username without a password, or a password without a username. -/
  | partialCredentials
  /-- The config file cannot be read. -/
  | unreadable (path : String) (cause : SystemError)
  /-- The config file is no document, or has a value that does not fit its key. -/
  | invalid (path : String)
  deriving DecidableEq

/-- The error in words. -/
def SettingsError.message : SettingsError → String
  | missingKeyspace => "no keyspace given: pass --keyspace or set DB_DEFAULT_KEYSPACE"
  | missingContactPoints =>
    "no contact points given: pass --contact-points or set DB_CONTACT_POINTS"
  | missingDataCenter =>
    "no local data center given: pass --local-data-center or set DB_LOCAL_DATA_CENTER"
  | partialCredentials => "credentials need both a username and a password"
  | unreadable path cause => "failed to read " ++ path ++ ": " ++ cause.message
  | invalid path => "invalid config file " ++ path ++ ": not a document of settings"

namespace ConfigFile

/-! ## Reading -/

/-- The text that a value is. -/
def text? : Toml.Value → Option String
  | .string text => some text
  | _ => none

/-- The texts that a value lists. -/
def texts? : Toml.Value → Option (List String)
  | .array elements => elements.mapM text?
  | _ => none

/-- The number below a bound that a value is. -/
def numberBelow? (bound : Nat) : Toml.Value → Option Nat
  | .integer i => if 0 ≤ i ∧ i < bound then some i.toNat else none
  | _ => none

/-- The port that a value is. -/
def port? (value : Toml.Value) : Option UInt16 :=
  (numberBelow? UInt16.size value).map UInt16.ofNat

/-- The number of seconds that a value is. -/
def seconds? (value : Toml.Value) : Option UInt64 :=
  (numberBelow? UInt64.size value).map UInt64.ofNat

/-- What the value of a key is, if the key is there; a value of the wrong kind fails. -/
def setting? {α : Type} (read : Toml.Value → Option α) (key : String) (members : Toml.Members) :
    Option (Option α) :=
  match members.lookup key with
  | none => some none
  | some value => (read value).map some

/-- The config file that a document is. -/
def ofMembers? (members : Toml.Members) : Option ConfigFile := do
  let connection : ConnectionConfig :=
    { keyspace := ← setting? text? "keyspace" members
      contactPoints := (← setting? texts? "contact-points" members).getD []
      port := ← setting? port? "port" members
      localDataCenter := ← setting? text? "local-data-center" members
      username := ← setting? text? "username" members
      password := ← setting? text? "password" members }
  return {
    connection
    outDir := ← setting? text? "out-dir" members
    formatter := ← setting? text? "formatter" members
    connectTimeout := ← setting? seconds? "connect-timeout-secs" members
    requestTimeout := ← setting? seconds? "request-timeout-secs" members }

/-- The config file that a text spells. -/
def parse? (text : String) : Option ConfigFile := (Toml.parse? text).bind ofMembers?

/-! ## Finding -/

/-- The name of the config file that is read unless another is named. -/
def defaultPath : String := "scylla-gen.toml"

variable {m : Type → Type} [Monad m]

/-- Loads the config file at a path. -/
def load (host : Host m) (path : String) : m (Except SettingsError ConfigFile) := do
  match ← host.readFile path with
  | .error e => return .error (.unreadable path e)
  | .ok text =>
    match parse? text with
    | some file => return .ok file
    | none => return .error (.invalid path)

/-- Loads the config file that was named, which has to exist, or else the default one, which need
not. -/
def discover (host : Host m) (path : Option String) : m (Except SettingsError ConfigFile) := do
  match path with
  | some path => load host path
  | none =>
    if ← host.isPresent defaultPath then load host defaultPath else return .ok {}

end ConfigFile

end WideColumn
