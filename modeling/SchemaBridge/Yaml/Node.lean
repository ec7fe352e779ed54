/-
# Documents

The one document of a YAML text as a value.  An alias stands for the value that was given its name.
-/
import SchemaBridge.Yaml.Token

namespace SchemaBridge.Yaml

/-- A value in a document. -/
inductive Node
  /-- A scalar, and whether it is bare. -/
  | scalar (isBare : Bool) (text : String)
  | sequence (items : List Node)
  | mapping (entries : List (Node × Node))
  deriving Inhabited, Repr

namespace Node

/-- What stands where a value is left out. -/
def missing : Node := .scalar true ""

/-- Values that have been given names. -/
abbrev Names := List (String × Node)

/-- What is left to be read. -/
structure Input where
  tokens : List Token
  names : Names
  deriving Inhabited, Repr

/-- Whether no token is left, or the next one is in a list. -/
def Input.before (i : Input) (ts : List Token) : Bool :=
  match i.tokens with
  | [] => true
  | t :: _ => ts.contains t

/-- What is left after the next token. -/
def Input.drop (i : Input) : Input := { i with tokens := i.tokens.tail }

/-- The names and tags before a value: the name, if any, and whether there is anything. -/
def properties : Nat → Input → Option String × Bool × Input
  | 0, i => (none, false, i)
  | fuel + 1, i =>
    match i.tokens with
    | .anchor n :: _ =>
      let (name, _, after) := properties fuel i.drop
      (name.orElse fun _ => some n, true, after)
    | .tag :: _ =>
      let (name, _, after) := properties fuel i.drop
      (name, true, after)
    | _ => (none, false, i)

/-- Read a value by `item`; before one of the tokens `ends` it is left out. -/
def itemOr (ends : List Token) (item : Input → Reading (Node × Input)) (i : Input) :
    Reading (Node × Input) :=
  if i.before ends then .ok (missing, i) else item i

/-- The value after a key, if a colon comes first. -/
def valueOr (ends : List Token) (item : Input → Reading (Node × Input)) (i : Input) :
    Reading (Node × Input) :=
  match i.tokens with
  | .value :: _ => itemOr ends item i.drop
  | _ => .ok (missing, i)

/-- Items of a block sequence. -/
def dashItems (ends : List Token) (item : Input → Reading (Node × Input)) :
    Nat → List Node → Input → Reading (List Node × Input)
  | 0, done, i => .ok (done.reverse, i)
  | fuel + 1, done, i =>
    match i.tokens with
    | .dash :: _ => do
      let (n, i) ← itemOr (.dash :: ends) item i.drop
      dashItems ends item fuel (n :: done) i
    | _ => .ok (done.reverse, i)

/-- Entries of a block mapping. -/
def blockEntries (item : Input → Reading (Node × Input)) :
    Nat → List (Node × Node) → Input → Reading (List (Node × Node) × Input)
  | 0, done, i => .ok (done.reverse, i)
  | fuel + 1, done, i => do
    let ends := [Token.key, .value, .blockEnd]
    match i.tokens with
    | .key :: _ =>
      let (k, i) ← itemOr ends item i.drop
      let (v, i) ← valueOr ends item i
      blockEntries item fuel ((k, v) :: done) i
    | .blockEnd :: _ => return (done.reverse, i.drop)
    | _ => throw "a key is missing"

/-- Go past the comma before all items but the first. -/
def separator (done : Bool) (i : Input) : Reading Input :=
  if !done then .ok i
  else match i.tokens with
    | .comma :: _ => .ok i.drop
    | _ => .error "a comma is missing"

/-- Items between brackets.  One with a colon is a mapping of one entry. -/
def bracketItems (item : Input → Reading (Node × Input)) :
    Nat → List Node → Input → Reading (List Node × Input)
  | 0, _, _ => .error "unexpected end"
  | fuel + 1, done, i =>
    let ends := [Token.comma, .closeBracket]
    match i.tokens with
    | .closeBracket :: _ => .ok (done.reverse, i.drop)
    | _ => do
      let i ← separator (!done.isEmpty) i
      match i.tokens with
      | .closeBracket :: _ => return (done.reverse, i.drop)
      | .key :: _ =>
        let (k, i) ← itemOr (.value :: ends) item i.drop
        let (v, i) ← valueOr ends item i
        bracketItems item fuel (.mapping [(k, v)] :: done) i
      | _ =>
        let (n, i) ← item i
        bracketItems item fuel (n :: done) i

/-- Entries between braces. -/
def braceEntries (item : Input → Reading (Node × Input)) :
    Nat → List (Node × Node) → Input → Reading (List (Node × Node) × Input)
  | 0, _, _ => .error "unexpected end"
  | fuel + 1, done, i =>
    let ends := [Token.comma, .closeBrace]
    match i.tokens with
    | .closeBrace :: _ => .ok (done.reverse, i.drop)
    | _ => do
      let i ← separator (!done.isEmpty) i
      match i.tokens with
      | .closeBrace :: _ => return (done.reverse, i.drop)
      | .key :: _ =>
        let (k, i) ← itemOr (.value :: ends) item i.drop
        let (v, i) ← valueOr ends item i
        braceEntries item fuel ((k, v) :: done) i
      | _ =>
        let (k, i) ← item i
        braceEntries item fuel ((k, missing) :: done) i

/-- Read a value.  A sequence in a block mapping may stand at the column of its key; then `loose`
holds.  `fuel` bounds the depth. -/
def read : Nat → Bool → Bool → Input → Reading (Node × Input)
  | 0, _, _, _ => .error "values are nested too deeply"
  | fuel + 1, inBlock, loose, i => do
    match i.tokens with
    | .alias n :: _ =>
      match i.names.lookup n with
      | some v => return (v, i.drop)
      | none => throw "unknown alias"
    | _ =>
      let (name, qualified, i) := properties 2 i
      let count := i.tokens.length + 1
      let (n, i) ← match i.tokens with
        | .dash :: _ =>
          if loose then
            let (items, i) ← dashItems [.key, .value, .blockEnd] (read fuel true false) count [] i
            pure (Node.sequence items, i)
          else if qualified then pure (missing, i)
          else throw "a value is missing"
        | .scalar b t :: _ => pure (Node.scalar b t, i.drop)
        | .openBracket :: _ =>
          let (items, i) ← bracketItems (read fuel false false) count [] i.drop
          pure (Node.sequence items, i)
        | .openBrace :: _ =>
          let (entries, i) ← braceEntries (read fuel false false) count [] i.drop
          pure (Node.mapping entries, i)
        | .sequenceStart :: _ =>
          if !inBlock then throw "a block inside brackets"
          let (items, i) ← dashItems [.blockEnd] (read fuel true false) count [] i.drop
          match i.tokens with
          | .blockEnd :: _ => pure (Node.sequence items, i.drop)
          | _ => throw "a dash is missing"
        | .mappingStart :: _ =>
          if !inBlock then throw "a block inside brackets"
          let (entries, i) ← blockEntries (read fuel true true) count [] i.drop
          pure (Node.mapping entries, i)
        | _ => if qualified then pure (missing, i) else throw "a value is missing"
      match name with
      | some a => return (n, { i with names := (a, n) :: i.names })
      | none => return (n, i)

/-- The tokens after the head of the first document. -/
def afterHead (ts : List Token) : Reading (List Token) :=
  let ts := ts.dropWhile (· == .documentEnd)
  match ts with
  | .directive :: _ =>
    match ts.dropWhile (· == .directive) with
    | .documentStart :: r => .ok r
    | _ => .error "a document start is missing"
  | .documentStart :: r => .ok r
  | ts => .ok ts

/-- The value of a document, given its tokens. -/
def ofTokens (ts : List Token) : Reading Node := do
  if ts.all (· == .documentEnd) then throw "no document"
  let ts ← afterHead ts
  let i : Input := ⟨ts, []⟩
  let (n, i) ← itemOr [.directive, .documentStart, .documentEnd] (read 128 true false) i
  if i.tokens.all (· == .documentEnd) then return n
  else throw "more than one document"

/-- The value of the one document in a text. -/
def parse (text : String) : Reading Node := do ofTokens (← tokens text)

end Node

end SchemaBridge.Yaml
