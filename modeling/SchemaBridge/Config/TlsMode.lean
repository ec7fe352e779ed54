/-
# Modes of transport security

Whether a connection is encrypted, and how far the certificate of the server is checked.
-/
import SchemaBridge.Error
import SchemaBridge.Text.Casing

namespace SchemaBridge

/-- Whether a connection is encrypted, and whom the other side must be certified by. -/
inductive TlsMode
  | disable
  /-- Encrypted, with any certificate. -/
  | require
  /-- The certificate must be signed by a known authority. -/
  | verifyAuthority
  /-- The certificate must also be that of the host. -/
  | verifyHost
  deriving DecidableEq, Repr, Inhabited

namespace TlsMode

/-- The mode a word stands for, ignoring case. -/
def parse (s : String) : Outcome TlsMode :=
  match Text.lowerText s with
  | "disable" | "" => .ok disable
  | "require" | "prefer" => .ok require
  | "verify-ca" => .ok verifyAuthority
  | "verify-full" => .ok verifyHost
  | other =>
    .error (.config ("Invalid ssl_mode '" ++ other
      ++ "'. Valid values: disable, require, verify-ca, verify-full"))

/-- Whether a connection has to be encrypted. -/
def isEncrypted (m : TlsMode) : Bool := m ≠ disable

end TlsMode

end SchemaBridge
