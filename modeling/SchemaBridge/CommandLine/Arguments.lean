/-
# Arguments of the command line

Options that concern every command come before it, its own options after it.  A value follows its
option as the next argument or after an equals sign; the next argument is no value if it looks like
an option.
-/
import SchemaBridge.Text.Pattern

namespace SchemaBridge.CommandLine

/-- What is asked for. -/
inductive Command
  /-- Check the configuration. -/
  | validate
  /-- Convert the configured source; a dry run writes no files. -/
  | convert (dryRun : Bool) (outputName : Option String)
  /-- Verify a session again and write its outputs. -/
  | resume (session : String) (outputName : Option String)
  /-- Print the report of a session. -/
  | report (session : String)
  deriving DecidableEq, Repr, Inhabited

/-- What the arguments come to. -/
inductive Request
  | run (config : String) (json : Bool) (command : Command)
  | version
  | help
  /-- There is nothing to do; help is printed as an error. -/
  | nothing
  /-- The arguments cannot be understood. -/
  | misuse
  deriving DecidableEq, Repr, Inhabited

/-! ## Options -/

/-- An option as it is written. -/
structure OptionForm where
  name : String
  letter : Option Char
  takesValue : Bool
  /-- Whether a value may be empty. -/
  admitsEmpty : Bool
  deriving DecidableEq, Repr, Inhabited

/-- What an argument list begins with. -/
inductive Piece
  /-- An option with its value, if it takes one. -/
  | option (name : String) (value : String) (rest : List String)
  | word (text : String) (rest : List String)
  /-- A double dash, after which there are no options. -/
  | dashes (rest : List String)
  | help
  | version
  | fault
  | finished
  deriving DecidableEq, Repr, Inhabited

/-- Whether an argument looks like an option. -/
def looksLikeOption (a : String) : Bool :=
  match a.toList with
  | '-' :: _ :: _ => true
  | _ => false

/-- Name and attached value of an option of more than one letter. -/
def longForm (s : List Char) : String × Option String :=
  let name := s.takeWhile (· ≠ '=')
  match s.dropWhile (· ≠ '=') with
  | [] => (String.ofList name, none)
  | _ :: value => (String.ofList name, some (String.ofList value))

/-- An option with a value that is attached to it, or is the next argument. -/
def withValue (o : OptionForm) (attached : Option String) (rest : List String) : Piece :=
  let value? : Option (String × List String) :=
    match attached, rest with
    | some v, _ => some (v, rest)
    | none, v :: r => if looksLikeOption v then none else some (v, r)
    | none, [] => none
  match o.takesValue, value? with
  | true, some (v, r) => if v = "" && !o.admitsEmpty then .fault else .option o.name v r
  | true, none => .fault
  | false, _ => if attached.isSome then .fault else .option o.name "" rest

/-- The first piece of an argument list, given the options that are known. -/
def nextPiece (forms : List OptionForm) (hasVersion : Bool) : List String → Piece
  | [] => .finished
  | a :: rest =>
    match a.toList with
    | ['-', '-'] => .dashes rest
    | '-' :: '-' :: s =>
      let (name, attached) := longForm s
      if name = "help" && attached.isNone then .help
      else if name = "version" && attached.isNone && hasVersion then .version
      else match forms.find? fun o => o.name = name with
        | some o => withValue o attached rest
        | none => .fault
    | '-' :: c :: s =>
      if c = 'h' then .help
      else if c = 'V' && hasVersion then .version
      else match forms.find? fun o => o.letter = some c with
        | some o =>
          let attached := match s with
            | [] => none
            | '=' :: v => some (String.ofList v)
            | v => some (String.ofList v)
          withValue o attached rest
        | none => .fault
    | _ => .word a rest

/-- Options and words that were read. -/
structure Given where
  options : List (String × String)
  /-- The first word and what comes after it. -/
  word : Option (String × List String)
  deriving DecidableEq, Repr, Inhabited

/-- Read options up to the first word.  An option may be given once. -/
def readOptions (forms : List OptionForm) (hasVersion : Bool) :
    Nat → List (String × String) → List String → Except Request Given
  | 0, _, _ => .error .misuse
  | fuel + 1, done, args =>
    match nextPiece forms hasVersion args with
    | .finished => .ok ⟨done, none⟩
    | .option name value rest =>
      if (done.lookup name).isSome then .error .misuse
      else readOptions forms hasVersion fuel (done ++ [(name, value)]) rest
    | .word w rest => .ok ⟨done, some (w, rest)⟩
    | .dashes [] => .ok ⟨done, none⟩
    | .dashes _ => .error .misuse
    | .help => .error .help
    | .version => .error .version
    | .fault => .error .misuse

/-! ## Commands -/

/-- Options before the command. -/
def generalForms : List OptionForm :=
  [⟨"config", some 'c', true, false⟩, ⟨"output-json", none, false, true⟩,
    ⟨"log-format", none, true, true⟩, ⟨"verbosity", none, true, true⟩]

/-- The option for a session, which takes a value. -/
def sessionForm : OptionForm := ⟨"session", none, true, false⟩

/-- The option for the name of what is written, which takes a value, also an empty one. -/
def outputForm : OptionForm := ⟨"prefix", none, true, true⟩

/-- The options of a command; a command with one of them takes no further words. -/
def commandOptions (forms : List OptionForm) (args : List String) :
    Except Request (List (String × String)) := do
  let given ← readOptions forms false (args.length + 1) [] args
  match given.word with
  | none => return given.options
  | some _ => throw .misuse

/-- The session that a command needs. -/
def sessionOf (options : List (String × String)) : Except Request String :=
  match options.lookup "session" with
  | some s => .ok s
  | none => .error .misuse

/-- The command of a name with its options. -/
def readCommand (name : String) (args : List String) : Except Request Command :=
  match name with
  | "validate" => do
    let _ ← commandOptions [] args
    return .validate
  | "convert" => do
    let os ← commandOptions [⟨"dry-run", none, false, true⟩, outputForm] args
    return .convert (os.lookup "dry-run").isSome (os.lookup "prefix")
  | "resume" => do
    let os ← commandOptions [sessionForm, outputForm] args
    return .resume (← sessionOf os) (os.lookup "prefix")
  | "report" => do
    let os ← commandOptions [sessionForm] args
    return .report (← sessionOf os)
  | "help" => .error .help
  | _ => .error .misuse

/-- What the arguments ask for, or what stands in the way. -/
def read (args : List String) : Except Request Request := do
  let given ← readOptions generalForms true (args.length + 1) [] args
  match given.word with
  | none => throw (if given.options.isEmpty then .nothing else .misuse)
  | some (name, rest) =>
    let command ← readCommand name rest
    return .run ((given.options.lookup "config").getD "config.yaml")
      (given.options.lookup "output-json").isSome command

/-- What the arguments come to. -/
def parse (args : List String) : Request :=
  match read args with
  | .ok r => r
  | .error r => r

end SchemaBridge.CommandLine
