/-
# Parts of a date and intervals

The words for parts of a date, and intervals after their keyword: a value with a unit, a precision
or a range of units.
-/
import SchemaBridge.Sql.Rules

namespace SchemaBridge.Sql

open Sql.Parser

/-! ## Fields of a date -/

/-- Words for the parts of a date. -/
def dateFields : List String :=
  ["YEAR", "MONTH", "WEEK", "DAY", "DAYOFWEEK", "DAYOFYEAR", "DATE", "DATETIME", "HOUR", "MINUTE",
    "SECOND", "CENTURY", "DECADE", "DOY", "DOW", "EPOCH", "ISODOW", "ISOYEAR", "ISOWEEK", "JULIAN",
    "MICROSECOND", "MICROSECONDS", "MILLENIUM", "MILLENNIUM", "MILLISECOND", "MILLISECONDS",
    "NANOSECOND", "NANOSECONDS", "QUARTER", "TIME", "TIMEZONE", "TIMEZONE_ABBR", "TIMEZONE_HOUR",
    "TIMEZONE_MINUTE", "TIMEZONE_REGION"]

/-- Words for a span of time after an interval. -/
def spanUnits : List String :=
  ["YEAR", "MONTH", "WEEK", "DAY", "HOUR", "MINUTE", "SECOND", "CENTURY", "DECADE", "DOW", "DOY",
    "EPOCH", "ISODOW", "ISOYEAR", "JULIAN", "MICROSECOND", "MICROSECONDS", "MILLENIUM",
    "MILLENNIUM", "MILLISECOND", "MILLISECONDS", "NANOSECOND", "NANOSECONDS", "QUARTER", "TIMEZONE",
    "TIMEZONE_HOUR", "TIMEZONE_MINUTE"]

/-- A part of a date; where the dialect allows it, any word or string. -/
def dateField (r : Rules) : Parser String := do
  match ← next with
  | .word i key =>
    if dateFields.contains key then
      if key = "WEEK" && r.isGeneric then
        if ← symbol "(" then
          let day ← ident
          expect ")"
          return "WEEK(" ++ day.print ++ ")"
      return key
    else if r.isMysql then fail
    else return i.print
  | .literal .single s => if r.isMysql then fail else return (Ident.mk s (some '\'')).print
  | _ => fail

/-! ## Intervals -/

/-- An interval after its keyword, given the parser for its value. -/
def intervalForm (r : Rules) (value : Parser Expr) : Parser Expr := do
  let v ← value
  let unit ← do
    if spanUnits.contains (← peekKey) then pure (some (← dateField r))
    else if r.isMysql then fail
    else pure none
  if unit = some "SECOND" then
    if ← symbol "(" then
      let p ← wholeNumber
      let s ← if ← symbol "," then pure (", " ++ (← wholeNumber)) else pure ""
      expect ")"
      return form [words "INTERVAL ", piece v, words (" SECOND (" ++ p ++ s ++ ")")]
    else return form [words "INTERVAL ", piece v, words " SECOND"]
  else
    let lead := (unit.map (" " ++ ·)).getD ""
    let precision ← TypeName.optionalPrecision
    let precision := if precision.isEmpty then "" else " " ++ precision
    let last ← if ← keyword "TO" then do
        let field ← dateField r
        let p ← if field = "SECOND" then TypeName.optionalPrecision else pure ""
        pure (" TO " ++ field ++ if p.isEmpty then "" else " " ++ p)
      else pure ""
    return form [words "INTERVAL ", piece v, words (lead ++ precision ++ last)]

end SchemaBridge.Sql
