import WideColumn.GeneratedFile
import WideColumn.KeyModel
import WideColumn.Model.Declaration
import WideColumn.Name.Model

/-!
# Models

The model of a table is a TypeScript module: the interface of its rows, the types of its keys, the
binding of the table to the mapper and the typed access to it, always in that order. Where a row is
looked up, leaving out a clustering column in the middle does not type-check.

Main definitions: `Model`, `Model.sections`, `Model.render`, `Model.ofTable`.
-/

namespace WideColumn

/-- The model of one table. -/
structure Model where
  tableName : String
  entityName : String
  fileName : String
  content : String

namespace Model

/-- The property of a column in the interface of the rows. -/
def columnField (column : Column) : Field := ⟨Name.camel column.name, column.type.target⟩

/-- The property of a key column. -/
def keyField (field : KeyField) : Field := ⟨field.name, field.target⟩

/-- The columns whose values need a converter. The others rely on the mapper's rule for names. -/
def convertedColumns (columns : List Column) : List ConvertedColumn :=
  columns.filterMap fun column =>
    column.type.conversion.map fun c => ⟨column.name, Name.camel column.name, c⟩

/-- The declarations of a model, in groups that stand together. -/
def sections (table : Table) (keys : KeyModel) : List (List Declaration) :=
  let name := Name.entity table.name
  [[.importDriver, .importClient],
    [.entity name (table.columns.map columnField)],
    [.partitionKeys (keys.partitionKeys.map keyField)]]
  ++ (if keys.isClustered then
      [[.clusteringKeys (keys.clusteringPrefixes.map (·.map keyField))]]
    else [])
  ++ [[.mapper name table.name (convertedColumns table.columns)],
    [.accessor name keys.isClustered],
    [.model name, .exportDefault name]]

/-- The text of a module: an empty line stands between two groups. -/
def moduleText (groups : List (List Declaration)) : String :=
  "\n".intercalate (groups.map fun group => String.join (group.map Declaration.text))

/-- The model of a table with the given keys. -/
def render (table : Table) (keys : KeyModel) : Model :=
  { tableName := table.name
    entityName := Name.entity table.name
    fileName := Name.modelFile table.name
    content := moduleText (sections table keys) }

/-- The model of a table with its own keys. -/
def ofTable (table : Table) : Model := render table (KeyModel.ofTable table)

/-- The file that a model goes to. -/
def toFile (model : Model) : GeneratedFile :=
  { path := model.fileName
    content := model.content
    language := .typeScript }

end Model

end WideColumn
