import ListQuery.Finding.Basic
import ListQuery.Params.Basic

/-!
Exact matches: one equality for every filled scalar parameter whose name is not reserved. A name
that is itself an integer is matched against its value read as an integer, and no parameter after
it is matched.
-/
namespace ListQuery

/-- The integer at the start of a text, after blanks: an optional sign and the digits that follow.
Digits beyond the largest signed 64-bit number count as that number; no digits count as zero. -/
def leadingInteger (s : String) : Int64 :=
  let magnitude (cs : List Char) : Int64 :=
    .ofInt (min 0x7fffffffffffffff (Text.decimalValue (cs.takeWhile Char.isDigit) : Int))
  match Text.dropBlank s.toList with
  | '-' :: cs => -magnitude cs
  | '+' :: cs => magnitude cs
  | cs => magnitude cs

/-- A value as an integer: numbers lose their fraction and stay within 64 bits, texts give the
integer at their start, truth values count as one and zero. -/
def Value.toInteger : Value → Int64
  | .number (.integer n _) => .ofInt (min 0x7fffffffffffffff n)
  | .number (.double x _) => x.truncate
  | .text s => leadingInteger s
  | .bool b => if b then 1 else 0
  | .null => 0
  | .list _ => 0
  | .map _ => 0

/-- Whether a name is a signed 64-bit integer. -/
def isIntegerName (name : String) : Bool := (Text.readInt64? name).isSome

namespace Rules

/-- What is found in the parameters that are not reserved, in the order of the request. -/
def exactMatches (r : Rules) : Entries → Findings
  | [] => []
  | (name, value) :: rest =>
    if !value.isFilled then r.exactMatches rest
    else if r.config.checkMatches && !r.allows name then
      .refuse (.invalidParameter name) :: r.exactMatches rest
    else if value.scalarText?.isNone then
      .omit (.nonScalarMatch name value.kind) :: r.exactMatches rest
    else if isIntegerName name then
      [.emit (.equals name (.number (.ofInt64 value.toInteger)))]
    else .emit (.equals name value) :: r.exactMatches rest

end Rules
end ListQuery
