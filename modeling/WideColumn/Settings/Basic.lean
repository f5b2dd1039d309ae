import WideColumn.ContactPoint.Basic
import WideColumn.Settings.ConfigFile

/-!
# Settings

Flags win over the config file, and the config file over the defaults, each setting for itself. The
keyspace is needed by every run that reads a catalog; what is needed to connect is asked for only
when a run connects.

Main definitions: `Settings`, `Settings.resolve`, `ConnectOptions`, `Settings.connectOptions`.
-/

namespace WideColumn

open Text

/-! ## Settings -/

/-- What one source says, with what another says in place of what is missing. No contact points at
all count as missing. -/
def ConnectionConfig.orElse (first second : ConnectionConfig) : ConnectionConfig :=
  { keyspace := first.keyspace <|> second.keyspace
    contactPoints :=
      if first.contactPoints.isEmpty then second.contactPoints else first.contactPoints
    port := first.port <|> second.port
    localDataCenter := first.localDataCenter <|> second.localDataCenter
    username := first.username <|> second.username
    password := first.password <|> second.password }

/-- The settings of a run. -/
structure Settings where
  keyspace : String
  /-- The directory of the models. -/
  outDir : String
  /-- The command that formats the models. -/
  formatter : String
  connection : ConnectionConfig
  connectTimeout : UInt64
  requestTimeout : UInt64
  deriving DecidableEq

namespace Settings

/-- The directory of the models unless another is named. -/
def defaultOutDir : String := "src/models"

/-- The command that formats the models unless another is named. -/
def defaultFormatter : String := "npx prettier --write"

/-- How long a connection may take unless the config file says otherwise, in seconds. -/
def defaultConnectTimeout : UInt64 := 5

/-- How long a request may take unless the config file says otherwise, in seconds. -/
def defaultRequestTimeout : UInt64 := 10

/-- The text is there and not blank. -/
def unlessBlank (text : Option String) : Option String := text.filter fun s => !allBlank s.toList

/-- The settings that flags, a config file and a directory named by a flag come to. -/
def resolve (flags : ConnectionConfig) (file : ConfigFile) (outDir : Option String) :
    Except SettingsError Settings :=
  let connection := flags.orElse file.connection
  match unlessBlank connection.keyspace with
  | none => .error .missingKeyspace
  | some keyspace => .ok
      { keyspace := String.ofList (trim keyspace.toList)
        outDir := (outDir <|> file.outDir).getD defaultOutDir
        formatter := file.formatter.getD defaultFormatter
        connection
        connectTimeout := file.connectTimeout.getD defaultConnectTimeout
        requestTimeout := file.requestTimeout.getD defaultRequestTimeout }

end Settings

/-! ## Connecting -/

/-- A user and the password of the user. -/
structure Credentials where
  username : String
  password : String
  deriving DecidableEq

/-- How to reach the cluster. -/
structure ConnectOptions where
  /-- Host names or addresses, with a port or without one. -/
  contactPoints : List String
  /-- The port of contact points that have none. -/
  port : UInt16
  /-- The data center that is asked first. -/
  localDataCenter : String
  credentials : Option Credentials
  connectTimeout : UInt64
  requestTimeout : UInt64
  deriving DecidableEq

/-- The nodes to connect to. -/
def ConnectOptions.nodes (options : ConnectOptions) : List String :=
  ContactPoint.nodes options.contactPoints options.port

namespace Settings

/-- How the settings say to reach the cluster. -/
def connectOptions (settings : Settings) : Except SettingsError ConnectOptions :=
  let connection := settings.connection
  if connection.contactPoints.all fun point => allBlank point.toList then
    .error .missingContactPoints
  else match unlessBlank connection.localDataCenter with
  | none => .error .missingDataCenter
  | some localDataCenter =>
    let reach (credentials : Option Credentials) : ConnectOptions :=
      { contactPoints := connection.contactPoints
        port := connection.port.getD ContactPoint.defaultPort
        localDataCenter
        credentials
        connectTimeout := settings.connectTimeout
        requestTimeout := settings.requestTimeout }
    match connection.username, connection.password with
    | some username, some password => .ok (reach (some { username, password }))
    | none, none => .ok (reach none)
    | _, _ => .error .partialCredentials

end Settings

end WideColumn
