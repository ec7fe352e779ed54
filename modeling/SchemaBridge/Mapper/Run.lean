/-
# Mapping a model

Columns and primary keys, table by table, then the indexes and the foreign keys of all tables.  A
mapping starts by dropping the issues of an earlier one.
-/
import SchemaBridge.Mapper.ForeignKeys
import SchemaBridge.Mapper.Keys

namespace SchemaBridge.Mapper

/-- Map the columns and the primary key of a table. -/
def mapTable (synthetic : String) (m : Model) (id : TableId) : Model :=
  mapPrimaryKey synthetic (mapColumns m id) id

/-- Map a model; `synthetic` is the name of synthetic keys. -/
def map (synthetic : String) (m : Model) : Model :=
  let ids := m.tables.map (·.1)
  mapForeignKeys (mapIndexes (ids.foldl (mapTable synthetic) (m.clearIssues .mapper)))

end SchemaBridge.Mapper
