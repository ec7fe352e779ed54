/-
# Sessions

A session is a model on disk, from which a later run goes on without the source.  Its text is a
JSON object that holds the model and a header: a format tag, a version, the moment of saving,
whether the model is partial, and a checksum of the model's compact text.

`Session.encode` writes a session and `Session.decode` reads it back, checking in order: JSON,
tag, version, presence of the model, header, checksum, shape of the model, and its structure.
-/
import SchemaBridge.Digest.Sha256
import SchemaBridge.Json.Reader
import SchemaBridge.Schema.Validity
import SchemaBridge.Session.Decode
import SchemaBridge.Session.Encode
import SchemaBridge.Schema.Audit

namespace SchemaBridge.Session

/-- What tells a session from other files. -/
def formatTag : String := "schema-convert/session"

/-- The newest format version, and the one that is written. -/
def formatVersion : Nat := 1

/-- What a session says about itself. -/
structure Header where
  format : String
  version : Nat
  savedAt : Instant
  isPartial : Bool
  toolVersion : String
  /-- Digest of the model's compact text. -/
  checksum : Option String
  deriving DecidableEq, Repr, Inhabited

/-- Digest of the compact text of a value. -/
def checksumOf (v : Json) : String := Digest.sha256Text (Json.compactText v)

/-- The fields of a header, without what is not set. -/
def encodeHeader (h : Header) : List (String × Json) :=
  [("format", .str h.format), ("version", encodeNat h.version),
    ("saved_at", encodeInstant h.savedAt), ("partial", .bool h.isPartial),
    ("tool_version", .str h.toolVersion)]
    ++ Json.optionalField "checksum" .str h.checksum

/-- A header. -/
def decodeHeader : Json.Decoder Header := fun v => do
  let fs ← Json.recordFields ["format", "version", "saved_at", "partial", "tool_version",
    "checksum"] v
  return {
    format := ← Json.required fs "format" Json.decodeText
    version := ← Json.required fs "version" Json.decodeWord32
    savedAt := ← Json.required fs "saved_at" decodeInstant
    isPartial := ← Json.withDefault fs "partial" false Json.decodeBool
    toolVersion := ← Json.required fs "tool_version" Json.decodeText
    checksum := ← Json.optional fs "checksum" Json.decodeText }

/-- The header a model gets when it is saved. -/
def headerFor (m : Model) (now : Instant) : Header :=
  { format := formatTag
    version := formatVersion
    savedAt := now
    isPartial := m.isPartial
    toolVersion
    checksum := some (checksumOf (encodeModel m)) }

/-- Text of a session file. -/
def encode (m : Model) (now : Instant) : String :=
  Json.prettyText (Json.object (("conv", encodeModel m) :: encodeHeader (headerFor m now)))

/-- Text of a session file for a complete model; a partial one is refused. -/
def encodeComplete (m : Model) (now : Instant) : Outcome String :=
  if m.isPartial then
    .error (.partialSession
      "model is incomplete (run was aborted); use save_partial to keep it")
  else .ok (encode m now)

/-- The error for a file that is no session. -/
def corrupt {α : Type} (text : String) : Outcome α := .error (.corruptSession text)

/-- The format tag must be there and be the right one. -/
def checkFormat (envelope : Json) : Outcome Unit :=
  match (envelope.field? "format").bind Json.text? with
  | none => corrupt "missing format tag"
  | some f => if f = formatTag then .ok () else corrupt ("unknown format '" ++ f ++ "'")

/-- The version must be there and not be newer than this one. -/
def checkVersion (envelope : Json) : Outcome Unit :=
  match (envelope.field? "version").bind Json.nat? with
  | none => corrupt "missing version"
  | some v =>
    if v > formatVersion then .error (.formatVersion (min v 4294967295) formatVersion) else .ok ()

/-- The checksum, if there is one, must be that of the model. -/
def checkSum (h : Header) (body : Json) : Outcome Unit :=
  match h.checksum with
  | none => .ok ()
  | some sum =>
    if sum = checksumOf body then .ok ()
    else corrupt "checksum mismatch (file modified after save)"

/-- Read a session. -/
def decode (content : String) : Outcome (Header × Model) := do
  let envelope ← match Json.parse content with
    | .ok v => pure v.canonical
    | .error e => corrupt ("not valid JSON: " ++ e.message)
  checkFormat envelope
  checkVersion envelope
  let body ← match envelope.field? "conv" with
    | some v => pure v
    | none => corrupt "missing model"
  let header ← match decodeHeader (envelope.eraseField "conv") with
    | .ok h => pure h
    | .error e => corrupt ("invalid header: " ++ e)
  checkSum header body
  let model ← match decodeModel body with
    | .ok m => pure m
    | .error e => corrupt ("invalid model: " ++ e)
  model.validate
  return (header, model)

end SchemaBridge.Session
