import WideColumn.Catalog.Fixture
import WideColumn.Host
import WideColumn.Settings.Basic

/-!
# Catalog sources

A run reads its rows from a fixture file if one is named, and otherwise from the cluster that its
settings describe. This library holds no network driver, so a cluster is never reached: connecting
checks that there is a node to connect to and then reports that it cannot.

Main definitions: `CatalogError`, `Fixture.load`, `Catalog.connect`.
-/

namespace WideColumn

/-- Why there is no catalog to read. -/
inductive CatalogError where
  /-- Every contact point is blank. -/
  | noContactPoints
  /-- No node can be reached. -/
  | unreachable
  /-- The fixture file cannot be read. -/
  | unreadable (path : String) (cause : SystemError)
  /-- The fixture file is no document of catalog rows. -/
  | malformed (path : String)
  deriving DecidableEq

/-- The error in words. -/
def CatalogError.message : CatalogError → String
  | noContactPoints => "connection error: no contact points given"
  | unreachable => "connection error: no node can be reached"
  | unreadable path cause => "fixture error: " ++ path ++ ": " ++ cause.message
  | malformed path => "fixture error: " ++ path ++ ": not a document of catalog rows"

variable {m : Type → Type} [Monad m]

/-- Loads the fixture at a path. -/
def Fixture.load (host : Host m) (path : String) : m (Except CatalogError Fixture) := do
  match ← host.readFile path with
  | .error e => return .error (.unreadable path e)
  | .ok text =>
    match Fixture.parse? text with
    | none => return .error (.malformed path)
    | some fixture =>
      host.log
        { level := .debug
          area := .fixture
          message := "loaded fixture"
          fields := [.plain "path" path, .count "count" fixture.entries.length] }
      return .ok fixture

/-- Connects to the cluster that the options describe. -/
def Catalog.connect (host : Host m) (options : ConnectOptions) :
    m (Except CatalogError Fixture) := do
  if options.nodes.isEmpty then return .error .noContactPoints
  host.log
    { level := .info
      area := .cluster
      message := "connecting to cluster"
      fields := [.quotedList "nodes" options.nodes, .plain "dc" options.localDataCenter] }
  return .error .unreachable

end WideColumn
