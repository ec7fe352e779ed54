/-
# The DynamoDB reader

Describes the tables of an export to a builder.  The attributes of the key come first, then the
other attributes with a declared type, then those found in the sample only; an attribute whose type
cannot be told becomes a string, with an issue.
-/
import SchemaBridge.Assembly.Builder
import SchemaBridge.Dynamo.Inference

namespace SchemaBridge.Dynamo

/-- Whether an attribute distributes the items of its table. -/
def isHash (k : KeyElement) : Bool := Text.sameFolded k.role "HASH"

/-- The elements of a key, hash keys first. -/
def orderedKey (key : List KeyElement) : List KeyElement :=
  key.filter isHash ++ key.filter fun k => !isHash k

/-- Key columns in ascending order. -/
def keyColumns (key : List KeyElement) : List KeyDraft :=
  (orderedKey key).map fun k => (k.attributeName, false)

/-- Append the names that a list does not have yet. -/
def appendNew (order : List String) (names : List String) : List String :=
  names.foldl (fun order n => if n ∈ order then order else order ++ [n]) order

namespace TableExport

/-- The declared type of an attribute; the last declaration counts. -/
def declaredType? (t : TableExport) (name : String) : Option String :=
  (t.definitions.reverse.find? fun d => d.name = name).map (·.type)

/-- The attributes of a table in the order of its columns. -/
def attributeOrder (t : TableExport) : List String :=
  appendNew (appendNew ((orderedKey t.key).map (·.attributeName)) (t.definitions.map (·.name)))
    (sampledNames t.items)

/-- The type of an attribute, and why it is a string if its type cannot be told. -/
def attributeType (t : TableExport) (name : String) : String × Option String :=
  match t.declaredType? name with
  | some type => (type, none)
  | none =>
    let what := "Attribute " ++ t.name ++ "." ++ name
    match inferType (sampledTypes name t.items) with
    | .dominant type => (type, none)
    | .mixed counts =>
      ("S", some (what ++ " has mixed types in the sample (" ++ describeCounts counts
        ++ "); mapped as string."))
    | .unknown => ("S", some (what ++ " is only null in the sample; mapped as string."))

/-- The column of an attribute; only those of the key must have a value. -/
def columnDraft (t : TableExport) (name : String) : ColumnDraft :=
  { ColumnDraft.plain name (SourceType.parse (t.attributeType name).1) with
    nullable := !t.key.any fun k => k.attributeName = name }

/-- The draft of a secondary index, which is not unique. -/
def indexDraft (i : SecondaryIndex) : IndexDraft :=
  { name := some i.name, columns := keyColumns i.key, unique := false }

/-- Every table has a key, whose attributes have declared types. -/
def checkKey (t : TableExport) : Outcome Unit :=
  if t.key.isEmpty then .error (.sourceParse t.name "table has no KeySchema")
  else
    match (orderedKey t.key).find? fun k => (t.declaredType? k.attributeName).isNone with
    | some k =>
      .error (.sourceParse t.name
        ("key attribute '" ++ k.attributeName ++ "' has no AttributeDefinition"))
    | none => .ok ()

/-- The draft of a table that was exported. -/
def draft (t : TableExport) : TableDraft :=
  { TableDraft.empty none t.name with
    columns := t.attributeOrder.map t.columnDraft
    primaryKey := keyColumns t.key
    indexes := (t.globalIndexes ++ t.localIndexes).map indexDraft }

/-- What has to be said about attributes whose types cannot be told. -/
def ambiguities (t : TableExport) : List String :=
  t.attributeOrder.filterMap fun n => (t.attributeType n).2

end TableExport

/-- Describe one table. -/
def readTable (b : Builder) (t : TableExport) : Outcome Builder := do
  t.checkKey
  match b.addTable t.draft with
  | (.error e, _) => .error e
  | (.ok none, b) => return b
  | (.ok (some id), b) =>
    return t.ambiguities.foldl (fun b d => b.issue .ambiguousMapping (.table id) d) b

/-- Describe tables until there are no more or the run is cancelled. -/
def readTables (b : Builder) : List TableExport → Outcome Builder
  | [] => .ok b
  | t :: rest =>
    match b.shouldStop with
    | (true, b) => .ok b
    | (false, b) => do readTables (← readTable b t) rest

/-- Read the text of an export; `path` names it in messages. -/
def read (path : String) (b : Builder) (text : String) : Outcome Builder :=
  match Export.parse text with
  | .error why => .error (.sourceParse path why)
  | .ok tables => readTables b tables

end SchemaBridge.Dynamo
