/-
# DynamoDB exports

An export lists tables: the key, the attributes with a declared type, the secondary indexes, and a
sample of the items.  An item is a map from attribute names to values, and a value is an object whose
first key names its type.
-/
import SchemaBridge.Json.Decode
import SchemaBridge.Json.Reader

namespace SchemaBridge.Dynamo

/-- One attribute of a key. -/
structure KeyElement where
  attributeName : String
  /-- `HASH` or `RANGE`. -/
  role : String
  deriving DecidableEq, Repr, Inhabited

/-- An attribute with a declared type. -/
structure AttributeDefinition where
  name : String
  type : String
  deriving DecidableEq, Repr, Inhabited

/-- A secondary index with its key. -/
structure SecondaryIndex where
  name : String
  key : List KeyElement
  deriving DecidableEq, Repr, Inhabited

/-- The values of an item by attribute, in the order of the names. -/
abbrev Item := List (String × Json)

/-- A table with its key, the definitions of attributes, its indexes and a sample of its items. -/
structure TableExport where
  name : String
  key : List KeyElement
  definitions : List AttributeDefinition
  globalIndexes : List SecondaryIndex
  localIndexes : List SecondaryIndex
  items : List Item
  deriving Repr, Inhabited

namespace Export

open Json (Decoder decodeText decodeList recordFields required withDefault)

/-- An attribute of a key, with its role. -/
def keyElement : Decoder KeyElement := fun j => do
  let fs ← recordFields ["AttributeName", "KeyType"] j
  return {
    attributeName := ← required fs "AttributeName" decodeText
    role := ← required fs "KeyType" decodeText }

/-- An attribute with its declared type. -/
def attributeDefinition : Decoder AttributeDefinition := fun j => do
  let fs ← recordFields ["AttributeName", "AttributeType"] j
  return {
    name := ← required fs "AttributeName" decodeText
    type := ← required fs "AttributeType" decodeText }

/-- A secondary index. -/
def secondaryIndex : Decoder SecondaryIndex := fun j => do
  let fs ← recordFields ["IndexName", "KeySchema"] j
  return {
    name := ← required fs "IndexName" decodeText
    key := ← required fs "KeySchema" (decodeList keyElement) }

/-- A map; the last value of a repeated key counts. -/
def item : Decoder Item := fun j =>
  match j.canonical with
  | .obj fields => .ok fields
  | _ => Json.expected "an item"

/-- A table that was exported. -/
def table : Decoder TableExport := fun j => do
  let fs ← recordFields
    ["TableName", "KeySchema", "AttributeDefinitions", "GlobalSecondaryIndexes",
      "LocalSecondaryIndexes", "Items"] j
  return {
    name := ← required fs "TableName" decodeText
    key := ← withDefault fs "KeySchema" [] (decodeList keyElement)
    definitions := ← withDefault fs "AttributeDefinitions" [] (decodeList attributeDefinition)
    globalIndexes := ← withDefault fs "GlobalSecondaryIndexes" [] (decodeList secondaryIndex)
    localIndexes := ← withDefault fs "LocalSecondaryIndexes" [] (decodeList secondaryIndex)
    items := ← withDefault fs "Items" [] (decodeList item) }

/-- The tables of an export. -/
def tables : Decoder (List TableExport) := fun j => do
  required (← recordFields ["Tables"] j) "Tables" (decodeList table)

/-- Read the tables of an export from its text, or say why it is none. -/
def parse (text : String) : Except String (List TableExport) :=
  match Json.parse text with
  | .error e => .error e.message
  | .ok j => tables j

end Export

end SchemaBridge.Dynamo
