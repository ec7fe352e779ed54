/-
# UTF-8

Bytes as text.  `utf8?` reads well-formed bytes only; `utf8Lenient` puts a replacement character in
place of each longest piece that begins a character and does not complete it.
-/

namespace SchemaBridge.Text

/-- Number of bytes that follow a first byte, and the bounds of the second one. -/
def utf8Shape (b : UInt8) : Option (Nat × UInt8 × UInt8) :=
  if b < 0x80 then some (0, 0x80, 0xbf)
  else if b < 0xc2 then none
  else if b < 0xe0 then some (1, 0x80, 0xbf)
  else if b = 0xe0 then some (2, 0xa0, 0xbf)
  else if b = 0xed then some (2, 0x80, 0x9f)
  else if b < 0xf0 then some (2, 0x80, 0xbf)
  else if b = 0xf0 then some (3, 0x90, 0xbf)
  else if b < 0xf4 then some (3, 0x80, 0xbf)
  else if b = 0xf4 then some (3, 0x80, 0x8f)
  else none

/-- The value of the bytes that follow a first byte, as far as they continue the character: whether
all are there, the value, and the number of bytes taken. -/
def utf8Tail : Nat → UInt8 → UInt8 → Nat → Nat → List UInt8 → Bool × Nat × Nat
  | 0, _, _, value, taken, _ => (true, value, taken)
  | _ + 1, _, _, value, taken, [] => (false, value, taken)
  | n + 1, low, high, value, taken, b :: r =>
    if low ≤ b && b ≤ high then
      utf8Tail n 0x80 0xbf (64 * value + (b.toNat - 0x80)) (taken + 1) r
    else (false, value, taken)

/-- The first character of some bytes, if they begin with one, and how many bytes after the first
belong to it or to its beginning. -/
def utf8Head (b : UInt8) (rest : List UInt8) : Option Char × Nat :=
  match utf8Shape b with
  | none => (none, 0)
  | some (n, low, high) =>
    let lead := match n with
      | 0 => b.toNat
      | 1 => b.toNat - 0xc0
      | 2 => b.toNat - 0xe0
      | _ => b.toNat - 0xf0
    let (complete, value, taken) := utf8Tail n low high lead 0 rest
    (if complete then some (Char.ofNat value) else none, taken)

/-- The characters of some bytes, `none` for each piece that is none.  The first argument is the
number of bytes to pass over. -/
def utf8Pieces : Nat → List UInt8 → List (Option Char)
  | _, [] => []
  | n + 1, _ :: r => utf8Pieces n r
  | 0, b :: r =>
    let (c, taken) := utf8Head b r
    c :: utf8Pieces taken r

/-- The text of well-formed bytes. -/
def utf8? (bytes : List UInt8) : Option String :=
  ((utf8Pieces 0 bytes).mapM id).map String.ofList

/-- The text of any bytes, with a replacement character for each piece that is none. -/
def utf8Lenient (bytes : List UInt8) : String :=
  String.ofList ((utf8Pieces 0 bytes).map fun c => c.getD '\ufffd')

end SchemaBridge.Text
