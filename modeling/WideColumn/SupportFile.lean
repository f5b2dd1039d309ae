import WideColumn.GeneratedFile

/-!
# Support files

Every model imports the database client of its directory, and may use a helper type that restricts
clustering keys to prefixes. Both files are written once and then belong to the project that uses
the models.

Main definitions: `SupportFile.all`.
-/

namespace WideColumn.SupportFile

/-- A text of the given lines, each of which is ended. -/
def ofLines (lines : List String) : String := String.join (lines.map (· ++ "\n"))

/-- The lines of the module that creates the client from the environment. -/
def clientLines : List String :=
  ["import cassandra from 'cassandra-driver';",
   "",
   "const contactPoints = process.env.DB_CONTACT_POINTS;",
   "const keyspace = process.env.DB_DEFAULT_KEYSPACE;",
   "const localDataCenter = process.env.DB_LOCAL_DATA_CENTER;",
   "",
   r"if (!contactPoints) {",
   "  throw new Error('DB_CONTACT_POINTS env variable is not set');",
   r"}",
   "",
   r"if (!keyspace) {",
   "  throw new Error('DB_DEFAULT_KEYSPACE env variable is not set');",
   r"}",
   "",
   r"if (!localDataCenter) {",
   "  throw new Error('DB_LOCAL_DATA_CENTER env variable is not set');",
   r"}",
   "",
   "const username = process.env.DB_USERNAME;",
   "const password = process.env.DB_PASSWORD;",
   "",
   r"export const dbClient = new cassandra.Client({",
   "  contactPoints: contactPoints.split(','),",
   "  keyspace,",
   "  localDataCenter,",
   "  credentials: username && password ? { username, password } : undefined,",
   r"  protocolOptions: {",
   "    port: process.env.DB_PORT ? Number(process.env.DB_PORT) : undefined,",
   r"  },",
   r"});"]

/-- The lines of the module with the helper type for clustering keys. -/
def clusteringOrderLines : List String :=
  ["/**",
   " * Drops the first element of a tuple type.",
   " */",
   "type Shift<T extends readonly unknown[]> = T extends [unknown, ...infer R]",
   "  ? R",
   "  : [];",
   "",
   "/**",
   " * Each key in `T` may only be present when every key before it is present.",
   " */",
   "type StrictOrder<",
   "  T extends readonly [string, unknown][],",
   "  Acc extends object = object,",
   "> = T extends []",
   "  ? Acc",
   "  :",
   "      | (Acc & { [K in T[number] as K[0]]?: never })",
   "      | StrictOrder<Shift<T>, Acc & { [K in T[0][0]]: T[0][1] }>;",
   "",
   "/**",
   " * Restricts `Obj` to prefixes of `Keys`, mirroring how clustering keys can be",
   " * used in a query.",
   " *",
   " * @example",
   " *   type Keys = ClusteringOrder<",
   " *     { status: string; createdAt: Date },",
   " *     ['status', 'createdAt']",
   " *   >;",
   r" *   const ok: Keys = { status: 'active' };",
   " *   const bad: Keys = { createdAt: new Date() }; // status missing",
   " */",
   "export type ClusteringOrder<",
   "  Obj extends Record<string, unknown>,",
   "  Keys extends readonly (keyof Obj)[],",
   "> = StrictOrder<{ [I in keyof Keys]: [Keys[I] & string, Obj[Keys[I]]] }>;"]

/-- The module that creates the client. -/
def client : GeneratedFile :=
  { path := "db-client.ts"
    content := ofLines clientLines
    language := .typeScript }

/-- The module with the helper type for clustering keys. -/
def clusteringOrder : GeneratedFile :=
  { path := "clustering-order.ts"
    content := ofLines clusteringOrderLines
    language := .typeScript }

/-- The support files, in the order in which they are written. -/
def all : List GeneratedFile := [client, clusteringOrder]

end WideColumn.SupportFile
