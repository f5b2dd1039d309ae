import WideColumn.Name.Case
import WideColumn.Name.Singular

/-!
# The names a model takes from its table

Main definitions: `Name.entity`, `Name.modelFile`.
-/

namespace WideColumn.Name

/-- The interface and mapper name of a table: `user_messages` gives `UserMessage`. -/
def entity (table : String) : String := singular (pascal table)

/-- The file of a table's model: `user_messages` gives `user-message.ts`. -/
def modelFile (table : String) : String := kebab (entity table) ++ ".ts"

end WideColumn.Name
