import ListQuery.Params.Basic
import ListQuery.Event

/-!
Control parameters: the scalar parameters that steer a listing. They are gathered into a record, a
page number only if the record could be read from it alone, and the record is read as a whole. One
that cannot be read would leave every parameter unread.
-/
namespace ListQuery

/-- Why a text is no page number. -/
inductive CountFault where
  | empty
  | notDigits
  | tooLarge
  deriving DecidableEq, Repr

def CountFault.message : CountFault → String
  | .empty => "cannot parse integer from empty string"
  | .notDigits => "invalid digit found in string"
  | .tooLarge => "number too large to fit in target type"

/-- The fault met first when digits are read one by one onto a number. -/
def digitFault (n : Nat) : List Char → CountFault
  | [] => .tooLarge
  | c :: cs =>
    if !c.isDigit then .notDigits
    else
      let m := 10 * n + (c.toNat - '0'.toNat)
      if 0x10000000000000000 ≤ m then .tooLarge else digitFault m cs

/-- The fault of a text that is no page number. -/
def countFault (s : String) : CountFault :=
  match s.toList with
  | [] => .empty
  | ['+'] => .notDigits
  | '+' :: cs => digitFault 0 cs
  | cs => digitFault 0 cs

/-- Whether a value is a text or a number. -/
def Value.isWritten : Value → Bool
  | .text _ => true
  | .number _ => true
  | .null => false
  | .bool _ => false
  | .list _ => false
  | .map _ => false

/-- What a parameter for a page number holds. -/
inductive CountReading where
  | absent
  | count (n : UInt64)
  | malformed (fault : String)
  deriving DecidableEq, Repr

namespace CountReading

/-- The two ways in which a value was tried and failed, as one text. -/
def malformedBoth (asNumber asText : String) : CountReading :=
  .malformed ("PickFirst could not deserialize any variant:\n  First: " ++ asNumber ++
    "\n  Second: " ++ asText)

/-- A number or a text as a page number; other values are not looked at. -/
def ofValue : Value → CountReading
  | .number (.integer n _) =>
    if 0 ≤ n then .count (.ofNat n.toNat)
    else
      let shown := "integer `" ++ toString n ++ "`, expected "
      malformedBoth ("invalid value: " ++ shown ++ "u64") ("invalid type: " ++ shown ++ "a string")
  | .number (.double x _) =>
    let shown := "invalid type: floating point `" ++ Decimal.text x ++ "`, expected "
    malformedBoth (shown ++ "u64") (shown ++ "a string")
  | .text s => match Text.readUInt64? s with
    | some n => .count n
    | none =>
      malformedBoth ("invalid type: string " ++ Text.quoted s ++ ", expected u64")
        (countFault s).message
  | .null => .absent
  | .bool _ => .absent
  | .list _ => .absent
  | .map _ => .absent

def toOption : CountReading → Option UInt64
  | .count n => some n
  | .absent => none
  | .malformed _ => none

end CountReading

structure Control where
  page : Option UInt64 := none
  perPage : Option UInt64 := none
  search : Option String := none
  searchBy : Option String := none
  order : Option String := none
  orderBy : Option String := none
  deriving DecidableEq, Repr

namespace Entries

/-- The count that a record holds under a name, if it holds one or nothing there. -/
def recordCount? (fields : Entries) (name : String) : Option (Option UInt64) :=
  match fields.get? name with
  | none => some none
  | some .null => some none
  | some v => (CountReading.ofValue v).toOption.map some

/-- The text that a record holds under a name, if it holds one or nothing there. -/
def recordText? (fields : Entries) (name : String) : Option (Option String) :=
  match fields.get? name with
  | none => some none
  | some .null => some none
  | some (.text s) => some (some s)
  | some _ => none

end Entries

namespace Control

def textNames : List String := ["search", "search_by", "order", "order_by"]

def countNames : List String := ["page", "per_page"]

/-- The control parameters that a record holds, if each is of its kind. -/
def ofRecord? (fields : Entries) : Option Control := do
  let page ← fields.recordCount? "page"
  let perPage ← fields.recordCount? "per_page"
  let search ← fields.recordText? "search"
  let searchBy ← fields.recordText? "search_by"
  let order ← fields.recordText? "order"
  let orderBy ← fields.recordText? "order_by"
  return { page, perPage, search, searchBy, order, orderBy }

end Control

namespace Params

/-- The text of a scalar parameter, filled or not. -/
def scalar? (p : Params) (name : String) : Option String :=
  (p.get? name).bind Value.scalarText?

def countReading (p : Params) (name : String) : CountReading :=
  ((p.get? name).map CountReading.ofValue).getD .absent

/-- What goes into the record for a parameter that is a text: the text of a scalar. -/
def textField? (p : Params) (name : String) : Option (String × Value) :=
  (p.scalar? name).map fun s => (name, .text s)

/-- What goes into the record for a parameter that is a count: a text or a number as it is, if a
record that holds nothing else can be read. -/
def countField? (p : Params) (name : String) : Option (String × Value) :=
  ((p.get? name).filter fun v => v.isWritten && (Control.ofRecord? [(name, v)]).isSome).map (name, ·)

/-- The record of the control parameters. -/
def controlRecord (p : Params) : Entries :=
  Control.textNames.filterMap p.textField? ++ Control.countNames.filterMap p.countField?

def control (p : Params) : Control := (Control.ofRecord? p.controlRecord).getD {}

/-- What reading the control parameters notes in the log. -/
def controlEvents (p : Params) : List Event :=
  ["page", "per_page"].filterMap fun name => match p.countReading name with
    | .malformed fault => some (.malformedPageNumber name fault)
    | _ => none

end Params
end ListQuery
