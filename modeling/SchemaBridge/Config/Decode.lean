/-
# Configurations from settings

A configuration file is a YAML document.  Fields that are not known are ignored, and those that may
be left out have the values of `TargetChoice.default`, `ConversionChoice.default` and the defaults
of a connection.
-/
import SchemaBridge.Config.Setting
import SchemaBridge.Config.Basic

namespace SchemaBridge.Config

open Setting

/-- A whole number of 64 bits. -/
def decodeWord64 : Setting.Decoder Nat := decodeNat 18446744073709551615

/-- How to reach a server. -/
def decodeConnection : Setting.Decoder Connection := fun s => do
  let fs ← fields ["host", "port", "database", "user", "password", "schemas", "ssl_mode"] s
  return {
    host := ← required fs "host" decodeText
    tcpPort := ← withDefault fs "port" 5432 (decodeNat 65535)
    database := ← required fs "database" decodeText
    user := ← required fs "user" decodeText
    password := ← withDefault fs "password" "" decodeText
    schemas := ← withDefault fs "schemas" ["public"] (decodeList decodeText)
    tlsMode := ← withDefault fs "ssl_mode" "require" decodeText }

/-- A verifier is told by its field `kind`.  The other fields are known only then, so bare words
have the types they have by themselves. -/
def decodeVerifier : Setting.Decoder VerifierChoice := fun s => do
  match s.typed with
  | .table entries =>
    if 1 < entries.countP (fun e => e.1 == "kind") then throw "field 'kind' is repeated"
    let rest := Setting.table (entries.filter fun e => e.1 != "kind")
    match entries.lookup "kind" with
    | some (.text "postgres") => return .server (← decodeConnection rest)
    | some (.text "http") =>
      let fs ← fields ["url"] rest
      return .planner (← required fs "url" decodeText)
    | _ => throw "unknown kind of verifier"
  | _ => throw "expected a verifier"

/-- Where the schema comes from. -/
def decodeSource : Setting.Decoder SourceChoice := fun s => do
  let fs ← fields ["dialect", "dump", "connection"] s
  return {
    dialect := ← required fs "dialect" (decodeName SourceDialect.ofName?)
    dump := ← optional fs "dump" decodeText
    connection := ← optional fs "connection" decodeConnection }

/-- For whom the schema is meant, and who checks its expressions. -/
def decodeTarget : Setting.Decoder TargetChoice := fun s => do
  let d := TargetChoice.default
  let fs ← fields ["dialect", "verifier", "timeout_secs"] s
  return {
    dialect := ← withDefault fs "dialect" d.dialect (decodeName TargetDialect.ofName?)
    verifier := ← optional fs "verifier" decodeVerifier
    timeoutSeconds := ← withDefault fs "timeout_secs" d.timeoutSeconds decodeWord64 }

/-- How the schema is converted. -/
def decodeConversion : Setting.Decoder ConversionChoice := fun s => do
  let d := ConversionChoice.default
  let fs ← fields ["name_collision", "synthetic_key_column", "verify_workers", "allow_partial_save",
    "output_prefix"] s
  return {
    collision := ← withDefault fs "name_collision" d.collision (decodeName CollisionPolicy.ofName?)
    syntheticKey := ← withDefault fs "synthetic_key_column" d.syntheticKey decodeText
    workers := ← optional fs "verify_workers" decodeWord64
    savesPartial := ← withDefault fs "allow_partial_save" d.savesPartial decodeBool
    outputName := ← optional fs "output_prefix" decodeText }

/-- A configuration from settings; it may still break the rules of `Config.validate`. -/
def decode : Setting.Decoder Config := fun s => do
  let fs ← fields ["source", "target", "conversion"] s
  return {
    source := ← required fs "source" decodeSource
    target := ← withDefault fs "target" .default decodeTarget
    conversion := ← withDefault fs "conversion" .default decodeConversion }

/-- The configuration that a YAML text holds. -/
def parse (text : String) : Outcome Config := do
  let c ← match Yaml.Node.parse text >>= fun n => decode (.ofNode n) with
    | .ok c => pure c
    | .error e => throw (.yaml e)
  c.validate
  return c

end SchemaBridge.Config
