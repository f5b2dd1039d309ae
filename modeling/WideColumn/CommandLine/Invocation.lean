import WideColumn.CommandLine.Switch
import WideColumn.Log.Filter
import WideColumn.Settings.ConfigFile

/-!
# Invocations

The program is called with a command, and with switches before or after the name of the command.
Some switches may stand at either place; the place after the name wins, and both win over a variable
of the environment.

A variable that is no port is refused even if a switch gives a port, unless there is one at both
places.

Main definitions: `CommandLine.Invocation`, `CommandLine.Request`, `CommandLine.parse`,
`CommandLine.filter`, `CommandLine.searchPath`, `CommandLine.usesColors`.
-/

namespace WideColumn.CommandLine

/-- The variables of the environment. -/
abbrev Environment := List (String × String)

/-- What the program shall do. -/
inductive Subcommand where
  | generate (tables : List String) (print overwrite format : Bool) (outDir : Option String)
  | inspect (tables : List String)
  | init (overwrite : Bool) (outDir : Option String)
  deriving DecidableEq

/-- How the program is called. -/
structure Invocation where
  config : Option String
  fixture : Option String
  verbose : Bool
  connection : ConnectionConfig
  subcommand : Subcommand
  deriving DecidableEq

/-- What a command line asks for. -/
inductive Request where
  | run (invocation : Invocation)
  | version
  | help
  deriving DecidableEq

/-! ## Values -/

/-- The text can be a path. -/
def isPath (text : String) : Bool := !text.isEmpty

/-- The port that a text is: digits, perhaps with a sign. -/
def port? (text : String) : Option UInt16 :=
  match text.toList with
  | '-' :: digits => if Text.isNumeral digits && Text.decimalValue digits = 0 then some 0 else none
  | s => (Text.readBelow? UInt16.size s).map UInt16.ofNat

/-- The text can be a port. -/
def isPort (text : String) : Bool := (port? text).isSome

/-! ## Switches -/

/-- The switches that may stand before and after the name of the command. -/
def sharedSwitches : List Switch :=
  [{ name := "config", purpose := .value, accepts := isPath },
    { name := "fixture", purpose := .value, accepts := isPath },
    { name := "verbose", short := some 'v', purpose := .flag },
    { name := "keyspace", short := some 'k', purpose := .value },
    { name := "contact-points", purpose := .list },
    { name := "port", purpose := .value, accepts := isPort },
    { name := "local-data-center", purpose := .value },
    { name := "username", purpose := .value },
    { name := "password", purpose := .value },
    { name := "help", short := some 'h', purpose := .about }]

/-- The switches before the name of the command. -/
def leadingSwitches : List Switch :=
  sharedSwitches ++ [{ name := "version", short := some 'V', purpose := .about }]

/-- The switch that replaces files without asking. -/
def overwriteSwitch : Switch := { name := "overwrite", short := some 'y', purpose := .flag }

/-- The switch that names the directory of the models. -/
def outDirSwitch : Switch :=
  { name := "out-dir", short := some 'o', purpose := .value, accepts := isPath }

/-- The switches after the name of a command, if there is such a command. -/
def switchesOf? : String → Option (List Switch)
  | "generate" => some (sharedSwitches ++
      [{ name := "print", purpose := .flag }, overwriteSwitch,
        { name := "format", purpose := .flag }, outDirSwitch])
  | "inspect" => some sharedSwitches
  | "init" => some (sharedSwitches ++ [overwriteSwitch, outDirSwitch])
  | _ => none

/-- What operands mean after the name of a command: tables, where it takes tables. -/
def operandsOf (name : String) : Operands := if name = "init" then .refused else .collected

/-! ## Reading -/

/-- The subcommand that a name, switches and operands spell. -/
def subcommand (name : String) (given : Given) (operands : List String) :
    Except UsageError Subcommand :=
  match name, operands with
  | "generate", tables =>
    .ok (.generate tables (given.has "print") (given.has "overwrite") (given.has "format")
      (given.value? "out-dir"))
  | "inspect", tables => .ok (.inspect tables)
  | "init", _ => .ok (.init (given.has "overwrite") (given.value? "out-dir"))
  | name, _ => .error (.unknownCommand name)

/-- The port of the environment that makes a command line wrong: it is no port, and it is looked at
because the switches do not give one both before and after the name of the command. -/
def spoiledPort? (environment : Environment) (leading trailing : Given) : Option String :=
  if leading.has "port" && trailing.has "port" then none
  else (environment.lookup "DB_PORT").filter (!isPort ·)

/-- What the switches before and after the name of the command, and the environment, say about the
connection. -/
def connection (environment : Environment) (leading trailing : Given) : ConnectionConfig :=
  let value (name variableName : String) : Option String :=
    trailing.value? name <|> leading.value? name <|> environment.lookup variableName
  let contactPoints : Option (List String) :=
    trailing.values? "contact-points" <|> leading.values? "contact-points" <|>
      (environment.lookup "DB_CONTACT_POINTS").map Given.listed
  { keyspace := value "keyspace" "DB_DEFAULT_KEYSPACE"
    contactPoints := contactPoints.getD []
    port := (value "port" "DB_PORT").bind port?
    localDataCenter := value "local-data-center" "DB_LOCAL_DATA_CENTER"
    username := value "username" "DB_USERNAME"
    password := value "password" "DB_PASSWORD" }

/-- The invocation that switches on both sides of a command and its operands spell. -/
def invocation (environment : Environment) (leading trailing : Given) (name : String)
    (operands : List String) : Except UsageError Invocation := do
  let subcommand ← subcommand name trailing operands
  if let some text := spoiledPort? environment leading trailing then
    throw (.invalidValue "port" text)
  return {
    config := trailing.value? "config" <|> leading.value? "config"
    fixture := trailing.value? "fixture" <|> leading.value? "fixture"
    verbose := trailing.has "verbose" || leading.has "verbose"
    connection := connection environment leading trailing
    subcommand }

/-- What the program is asked about itself. -/
def aboutRequest (name : String) : Request := if name = "version" then .version else .help

/-- What is asked about by the words after the command `help`: the program, or one of its commands.
No switches are read there, and a command has no commands of its own. -/
def parseHelp : List String → Except UsageError Request
  | [] => .ok .help
  | [name] =>
    if name = "help" || (switchesOf? name).isSome then .ok .help else .error (.unknownCommand name)
  | name :: further :: _ =>
    if name = "help" || (switchesOf? name).isSome then .error (.unknownCommand further)
    else .error (.unknownCommand name)

/-- What the arguments after the name of a command ask for. -/
def parseTrailing (environment : Environment) (leading : Given) (name : String)
    (arguments : List String) : Except UsageError Request := do
  match switchesOf? name with
  | none => if name = "help" then parseHelp arguments else throw (.unknownCommand name)
  | some switches =>
    match ← scan switches (operandsOf name) {} [] arguments with
    | .about name => return aboutRequest name
    | .level trailing operands _ =>
      return .run (← invocation environment leading trailing name operands)

/-- What the arguments of the program ask for. -/
def parse (environment : Environment) (arguments : List String) : Except UsageError Request := do
  match ← scan leadingSwitches .command {} [] arguments with
  | .about name => return aboutRequest name
  | .level _ _ [] => throw .missingCommand
  | .level leading _ (name :: rest) => parseTrailing environment leading name rest

/-! ## The environment -/

/-- The records that a request shows: those that the environment selects, or else those from `INFO`
on, or from `DEBUG` on with the verbose switch. -/
def filter (environment : Environment) (request : Request) : Log.Filter :=
  let isVerbose := match request with
    | .run invocation => invocation.verbose
    | _ => false
  ((environment.lookup "RUST_LOG").bind Log.Filter.parse?).getD
    (.atLeast (if isVerbose then .debug else .info))

/-- The directories in which programs are looked for. -/
def searchPath (environment : Environment) : List String :=
  match environment.lookup "PATH" with
  | some directories => (Text.splitAt ':' directories.toList).map String.ofList
  | none => ["/bin", "/usr/bin"]

/-- Notes are in color. The environment may force colors, or forbid them; otherwise they go to a
terminal only. -/
def usesColors (environment : Environment) (isTerminal : Bool) : Bool :=
  let isOn (name : String) : Option Bool := (environment.lookup name).map (· != "0")
  if isOn "CLICOLOR_FORCE" = some true then true
  else if (environment.lookup "NO_COLOR").isSome then false
  else (isOn "CLICOLOR").getD true && isTerminal

end WideColumn.CommandLine
