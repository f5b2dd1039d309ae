import WideColumn.Conversion
import WideColumn.TargetType

/-!
# Declarations of a model

A model is a TypeScript module made of a few kinds of declarations. Each kind is a constructor here,
so that the names a model binds can be read off its declarations; one function writes a declaration.

Main definitions: `Field`, `ConvertedColumn`, `Declaration`, `Declaration.binds`,
`Declaration.text`.
-/

namespace WideColumn

/-- A property of an object type. -/
structure Field where
  name : String
  target : TargetType

/-- A column whose driver value is converted for its field. -/
structure ConvertedColumn where
  column : String
  field : String
  conversion : Conversion

/-- A declaration of a model. -/
inductive Declaration where
  /-- The driver, imported whole. -/
  | importDriver
  /-- The client that all models share. -/
  | importClient
  /-- The interface of the table's rows. -/
  | entity (name : String) (fields : List Field)
  /-- The object type of the partition key. -/
  | partitionKeys (fields : List Field)
  /-- The union of the object types of the legal choices of clustering columns. -/
  | clusteringKeys (alternatives : List (List Field))
  /-- The mapper that binds the table to the entity. -/
  | mapper (entity table : String) (columns : List ConvertedColumn)
  /-- The interface that asks for the whole primary key where one row is looked up. -/
  | accessor (entity : String) (isClustered : Bool)
  /-- The mapper's model of the entity. -/
  | model (entity : String)
  /-- What the module exports by default. -/
  | exportDefault (entity : String)

namespace Declaration

/-- The name of the interface that narrows the mapper's model. -/
def accessorName (entity : String) : String := entity ++ "Mapper"

/-- The name that a declaration binds at the top level of the module. -/
def binds : Declaration → Option String
  | importDriver => some "cassandra"
  | importClient => some "dbClient"
  | entity name _ => some name
  | partitionKeys _ => some "PartitionKeys"
  | clusteringKeys _ => some "ClusteringKeys"
  | mapper _ _ _ => some "mapper"
  | accessor name _ => some (accessorName name)
  | model name => some name
  | exportDefault _ => none

/-! ## Text -/

/-- A property with the given space in front of it. -/
def fieldText (indent : String) (field : Field) : String :=
  indent ++ field.name ++ ": " ++ field.target.text ++ ";"

/-- Properties on lines of their own. -/
def fieldLines (fields : List Field) : String :=
  String.join (fields.map fun field => fieldText "  " field ++ "\n")

/-- One alternative of the clustering keys. -/
def alternativeText (fields : List Field) : String :=
  r"  | {" ++ "\n" ++ "\n".intercalate (fields.map (fieldText "    ")) ++ "\n" ++ r"  }"

/-- The mapper's entry of a converted column. -/
def convertedText (c : ConvertedColumn) : String :=
  "        " ++ c.column ++ r": {" ++ "\n"
    ++ "          name: '" ++ c.field ++ "',\n"
    ++ "          toModel: " ++ c.conversion.toModel ++ ",\n"
    ++ r"        }," ++ "\n"

/-- The mapper's table of converted columns. -/
def convertedLines (columns : List ConvertedColumn) : String :=
  if columns.isEmpty then "      columns: {},\n"
  else r"      columns: {" ++ "\n" ++ String.join (columns.map convertedText) ++ r"      }," ++ "\n"

/-- The declaration as it stands in the module, with the end of its last line. -/
def text : Declaration → String
  | importDriver => "import cassandra from 'cassandra-driver';\n"
  | importClient => "import { dbClient } from './db-client';\n"
  | entity name fields =>
    "export interface " ++ name ++ r" {" ++ "\n" ++ fieldLines fields ++ r"}" ++ "\n"
  | partitionKeys fields =>
    if fields.isEmpty then "type PartitionKeys = {};\n"
    else r"type PartitionKeys = {" ++ "\n" ++ fieldLines fields ++ r"};" ++ "\n"
  | clusteringKeys alternatives =>
    "type ClusteringKeys =\n" ++ "\n".intercalate (alternatives.map alternativeText) ++ ";\n"
  | mapper name table columns =>
    r"const mapper = new cassandra.mapping.Mapper(dbClient, {" ++ "\n"
      ++ r"  models: {" ++ "\n"
      ++ "    " ++ name ++ r": {" ++ "\n"
      ++ "      tables: ['" ++ table ++ "'],\n"
      ++ "      mappings: new cassandra.mapping.UnderscoreCqlToCamelCaseMappings(),\n"
      ++ convertedLines columns
      ++ r"    }," ++ "\n"
      ++ r"  }," ++ "\n"
      ++ r"});" ++ "\n"
  | accessor name isClustered =>
    "interface " ++ accessorName name ++ " extends cassandra.mapping.ModelMapper<" ++ name
        ++ r"> {" ++ "\n"
      ++ "  get(\n"
      ++ "    doc: " ++ (if isClustered then "PartitionKeys & ClusteringKeys" else "PartitionKeys")
        ++ ",\n"
      ++ "    docInfo?: { fields?: string[] },\n"
      ++ "    executionOptions?: string | cassandra.mapping.MappingExecutionOptions,\n"
      ++ "  ): Promise<null | " ++ name ++ ">;\n"
      ++ r"}" ++ "\n"
  | model name =>
    "const " ++ name ++ " = mapper.forModel('" ++ name ++ "') as " ++ accessorName name ++ ";\n"
  | exportDefault name => "export default " ++ name ++ ";\n"

end Declaration

end WideColumn
