/-
# Numbers that are not whole

A number with a fraction, an exponent or more than 64 bits is kept as a double.  Reading scales
the leading digits that fit 64 bits by a power of ten in double precision.  Writing gives the
fewest digits that read back, found in exact integer arithmetic: of two such decimals the nearer
one is taken.
-/
import SchemaBridge.Json.Basic
import SchemaBridge.Text.Pattern

namespace SchemaBridge.Json

/-! ## From digits to a double -/

/-- Largest number of 64 bits. -/
def maxWord : Nat := 18446744073709551615

/-- A power of ten that a double can hold. -/
def powerOfTen (n : Nat) : Float := Float.ofScientific 1 false n

/-- Scale a double by a power of ten, at most 308 places at a time; nothing if it becomes too
large.  `fuel` bounds the number of steps that make it smaller. -/
def scale : Nat → Float → Int → Option Float
  | 0, _, _ => some 0
  | fuel + 1, f, e =>
    if e.natAbs ≤ 308 then
      if 0 ≤ e then
        let g := f * powerOfTen e.natAbs
        if g.isInf then none else some g
      else some (f / powerOfTen e.natAbs)
    else if f == 0 then some f
    else if 0 ≤ e then none
    else scale fuel (f / powerOfTen 308) (e + 308)

/-- Digits added to a significand until one no longer fits a word; then the number of digits left
over. -/
def gather : Nat → List Char → Nat × Nat
  | significand, [] => (significand, 0)
  | significand, d :: r =>
    let next := 10 * significand + (d.toNat - '0'.toNat)
    if next ≤ maxWord then gather next r else (significand, (d :: r).length)

/-- The double for a number given by the digits before and after its point and an exponent. -/
def realOf? (negative : Bool) (whole fraction : List Char) (exponent : Int) : Option Json :=
  let (significand, dropped) := gather 0 whole
  let (significand, unread) := gather significand fraction
  let e : Int := dropped - ((fraction.length - unread : Nat) : Int) + exponent
  (scale 8 (Float.ofNat significand) e).map fun f => .real (if negative then -f else f).toBits

/-! ## From a double to digits -/

/-- A positive double as `m * 2 ^ q`. -/
def parts (bits : UInt64) : Nat × Int :=
  let field : Nat := bits.toNat % Nat.pow 2 52
  let e : Nat := bits.toNat / Nat.pow 2 52 % Nat.pow 2 11
  if e = 0 then (field, -1074) else (field + Nat.pow 2 52, (e : Int) - 1075)

/-- The fraction `m * 2 ^ q` as numerator and denominator. -/
def fractionOf (m : Nat) (q : Int) : Nat × Nat :=
  match q with
  | .ofNat n => (m * Nat.pow 2 n, 1)
  | .negSucc n => (m, Nat.pow 2 (n + 1))

/-- The exponent of the leading decimal digit of a positive fraction.  `fuel` bounds the search
below one. -/
def leadingExponent (num den : Nat) : Int :=
  if den ≤ num then ((Nat.toDigits 10 (num / den)).length : Int) - 1
  else
    let rec go : Nat → Nat → Nat → Int
      | 0, k, _ => -(k : Int)
      | fuel + 1, k, n => if den ≤ n then -(k : Int) else go fuel (k + 1) (n * 10)
    go 400 1 (num * 10)

/-- The nearest decimal with a given number of digits that lies within the numbers that read back
as `m * 2 ^ q`, as its digits and the exponent of the last one. -/
def candidate? (m : Nat) (q : Int) (digits : Nat) : Option (Nat × Int) :=
  -- everything is counted in quarters of `2 ^ q`, so that the bounds are whole
  let (num, den) := fractionOf m q
  let (unit, unitDen) := fractionOf 1 (q - 2)
  let low := if m = Nat.pow 2 52 ∧ q ≠ -1074 then 4 * m - 1 else 4 * m - 2
  let high := 4 * m + 2
  let last := leadingExponent num den - digits + 1
  let (stepNum, stepDen) : Nat × Nat :=
    match last with
    | .ofNat n => (Nat.pow 10 n, 1)
    | .negSucc n => (1, Nat.pow 10 (n + 1))
  let below := num * stepDen / (den * stepNum)
  -- `d` steps against `k` units
  let compare := fun (d k : Nat) => Ord.compare (d * stepNum * unitDen) (k * unit * stepDen)
  let inside := fun (d : Nat) =>
    if m % 2 = 0 then compare d low != .lt && compare d high != .gt
    else compare d low == .gt && compare d high == .lt
  let nearer := compare (2 * below + 1) (8 * m)
  let order := if nearer == .lt then [below + 1, below] else [below, below + 1]
  (order.find? inside).map fun d => (d, last)

/-- The shortest decimal that reads back, without zeros at its end. -/
def shortest (m : Nat) (q : Int) : Nat × Int :=
  let found := (List.range 17).findSome? fun i => candidate? m q (i + 1)
  found.getD (m, q)

/-- Text of a positive decimal: positional between `0.00001` and `10 ^ 16`, else with an
exponent. -/
def decimalText (digits : Nat) (last : Int) : String :=
  let ds := Nat.toDigits 10 digits
  let point : Int := ds.length + last
  if 0 ≤ last ∧ point ≤ 16 then
    String.ofList (ds ++ List.replicate last.toNat '0' ++ ['.', '0'])
  else if 0 < point ∧ point ≤ 16 then
    String.ofList (ds.take point.toNat ++ '.' :: ds.drop point.toNat)
  else if -5 < point ∧ point ≤ 0 then
    String.ofList (['0', '.'] ++ List.replicate (-point).toNat '0' ++ ds)
  else
    let exponent := "e" ++ Text.decimalInt (point - 1)
    match ds with
    | [d] => String.ofList [d] ++ exponent
    | d :: r => String.ofList (d :: '.' :: r) ++ exponent
    | [] => exponent

/-- Text of a finite double. -/
def realText (bits : UInt64) : String :=
  let sign := if bits.toNat / Nat.pow 2 63 = 1 then "-" else ""
  let (m, q) := parts bits
  if m = 0 then sign ++ "0.0"
  else
    let (digits, last) := shortest m q
    sign ++ decimalText digits last

end SchemaBridge.Json
