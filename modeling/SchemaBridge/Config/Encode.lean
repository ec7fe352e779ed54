/-
# Writing configurations

A configuration as a record with its fields in order.  Passwords are left out, and so are settings
that have no value.  The digest of the YAML text is the fingerprint of the configuration.
-/
import SchemaBridge.Config.Basic
import SchemaBridge.Digest.Sha256
import SchemaBridge.Yaml.Writer

namespace SchemaBridge

open Json (optionalField)

/-- The fields of a connection; the password is not among them. -/
def Connection.encode (c : Connection) : List (String × Json) :=
  [("host", .str c.host), ("port", .int c.tcpPort), ("database", .str c.database),
    ("user", .str c.user), ("schemas", .arr (c.schemas.map .str)), ("ssl_mode", .str c.tlsMode)]

/-- The verifier, with the kind of it that tells which fields follow. -/
def VerifierChoice.encode : VerifierChoice → Json
  | .server c => .obj (("kind", .str "postgres") :: c.encode)
  | .planner url => .obj [("kind", .str "http"), ("url", .str url)]

/-- The source, without what is not set. -/
def SourceChoice.encode (s : SourceChoice) : Json :=
  .obj
    (("dialect", .str s.dialect.name) :: optionalField "dump" .str s.dump
      ++ optionalField "connection" (fun c => .obj c.encode) s.connection)

/-- The target, without what is not set. -/
def TargetChoice.encode (t : TargetChoice) : Json :=
  .obj
    (("dialect", .str t.dialect.name) :: optionalField "verifier" (·.encode) t.verifier
      ++ [("timeout_secs", .int t.timeoutSeconds)])

/-- The settings of the conversion, without what is not set. -/
def ConversionChoice.encode (c : ConversionChoice) : Json :=
  .obj
    ([("name_collision", .str c.collision.name), ("synthetic_key_column", .str c.syntheticKey)]
      ++ optionalField "verify_workers" (fun n => .int (Int.ofNat n)) c.workers
      ++ [("allow_partial_save", .bool c.savesPartial)]
      ++ optionalField "output_prefix" .str c.outputName)

namespace Config

/-- The fields of a configuration. -/
def encode (c : Config) : List (String × Json) :=
  [("source", c.source.encode), ("target", c.target.encode), ("conversion", c.conversion.encode)]

/-- The configuration as YAML. -/
def text (c : Config) : String := Yaml.documentText c.encode

/-- Digest by which configurations are told apart. -/
def fingerprint (c : Config) : String := Digest.sha256Text c.text

end Config

end SchemaBridge
