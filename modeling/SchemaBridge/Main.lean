/-
# The program

The command line over the files of the machine.  Everything it decides is decided by
`CommandLine.parse` and `CommandLine.run`; here are only the reading and writing.
-/
import SchemaBridge.CommandLine.Run
import SchemaBridge.Schema.Audit
import Std.Time.DateTime.Timestamp

open SchemaBridge

namespace Program

/-- The error for a fault that the system reports. -/
def faultError : IO.Error → ConvertError
  | .noFileOrDirectory .. | .noSuchThing .. => FileFault.missing.error
  | .inappropriateType _ 20 _ => FileFault.notFolder.error
  | .inappropriateType .. => FileFault.isFolder.error
  | .permissionDenied .. => .file "Permission denied (os error 13)"
  | e => .file (toString e)

/-- An action on files as a step of a run. -/
def step {α : Type} (act : IO α) : ExceptT ConvertError BaseIO α :=
  ExceptT.mk do
    match ← act.toBaseIO with
    | .ok a => return .ok a
    | .error e => return .error (faultError e)

/-- The files of the machine.  No server is reached from here. -/
def machine : Surroundings BaseIO where
  read path := step do return (← IO.FS.readBinFile path).toList
  write path text := step (IO.FS.writeFile path text)
  move path goal := step (IO.FS.rename path goal)
  has path := do
    match ← (IO.FS.Handle.mk path .read).toBaseIO with
    | .ok _ => return true
    | .error _ => return false
  catalogue _ := throw (Surroundings.unreachable "source")
  verifier v := ExceptT.mk (pure (Surroundings.unreachableVerifier v))

/-- Two hexadecimal digits of a byte. -/
def hexPair (b : UInt8) : List Char :=
  [Nat.digitChar (b.toNat / 16), Nat.digitChar (b.toNat % 16)]

/-- A random identity of a request: sixteen bytes, six bits of which tell how they were chosen. -/
def requestId (random : List UInt8) : String :=
  let marked := random.mapIdx fun i b =>
    if i = 6 then b % 16 + 0x40 else if i = 8 then b % 64 + 0x80 else b
  let digits := marked.mapIdx fun i b =>
    (if [4, 6, 8, 10].contains i then ['-'] else []) ++ hexPair b
  "schema-conv-" ++ String.ofList digits.flatten

/-- Number of processors of the machine, at least one. -/
def processors : BaseIO Nat := do
  match ← (IO.FS.lines "/proc/cpuinfo").toBaseIO with
  | .ok ls => return max 1 (ls.toList.countP fun l => (l.splitOn "processor").head? == some "")
  | .error _ => return 1

/-- What a run is told of the machine: the time, the number of processors and an identity of its
own. -/
def launch : IO CommandLine.Launch := do
  let now ← Std.Time.Timestamp.now
  let nanos := now.toNanosecondsSinceUnixEpoch.val
  return {
    requestId := requestId (← IO.getRandomBytes 16).toList
    now := ⟨nanos / 1000000000, (nanos % 1000000000).toNat⟩
    processors := ← processors }

/-- How the program is used. -/
def usage : String :=
  "Convert a source database schema to a distributed SQL target\n\n"
    ++ "Usage: schema-convert [OPTIONS] <COMMAND>\n\n"
    ++ "Commands:\n"
    ++ "  convert   Read the source schema, map it and verify expressions\n"
    ++ "  resume    Re-verify a saved session and write fresh outputs\n"
    ++ "  report    Print the report of a saved session\n"
    ++ "  validate  Check the configuration file and exit\n\n"
    ++ "Options:\n"
    ++ "  -c, --config <CONFIG>          Path to YAML configuration file [default: config.yaml]\n"
    ++ "      --output-json              Print the report as JSON to stdout\n"
    ++ "      --log-format <LOG_FORMAT>  Log format: text or json [default: text]\n"
    ++ "      --verbosity <VERBOSITY>    Log verbosity: debug, info, warn, error [default: info]\n"
    ++ "  -h, --help                     Print help\n"
    ++ "  -V, --version                  Print version\n"

end Program

/-- The tool. -/
def main (args : List String) : IO UInt32 := do
  match CommandLine.parse args with
  | .version =>
    IO.println ("schema-convert " ++ toolVersion)
    return 0
  | .help =>
    IO.print Program.usage
    return 0
  | .nothing =>
    IO.eprint Program.usage
    return 2
  | .misuse =>
    IO.eprintln "error: the arguments cannot be understood\n\nFor more information, try '--help'."
    return 2
  | .run config json command =>
    let launch ← Program.launch
    let ending ←
      (CommandLine.run Program.machine launch config json command : BaseIO CommandLine.Ending)
    IO.print ending.output
    match ending.error with
    | some e => IO.eprintln e.detailed
    | none => return 0
    return ending.exitCode.toUInt32
