import ListQuery.Predicate
import ListQuery.Error

/-!
Events of the log: what happened, at which level, and the fields that say to what.
-/
namespace ListQuery

/-- What compiling passes over without calling it an error. -/
inductive Omission where
  | nonScalarMatch (parameter kind : String)
  | nonMapRange (parameter : String)
  | nonScalarSearch
  deriving DecidableEq, Repr

inductive Level where
  | error
  | warn
  | info
  | debug
  | trace
  deriving DecidableEq, Repr

def Level.name : Level → String
  | .error => "error"
  | .warn => "warn"
  | .info => "info"
  | .debug => "debug"
  | .trace => "trace"

inductive Event where
  | emitted (predicate : Predicate)
  | suppressed (table : String) (reason : Rejection)
  | omitted (what : Omission)
  | compiled (table : String) (count : Nat)
  | nonMapPayload (kind : String)
  | malformedPageNumber (parameter fault : String)
  | fetchedPage (table : String) (page total : UInt64)
  | answeredError (error : Error)
  | nonBooleanSetting (name value : String)
  | unknownSource (name value : String)
  | emptySortColumn (name : String)
  | invalidPageSize (name value : String)

namespace Event

def level : Event → Level
  | .emitted _ => .trace
  | .answeredError (.schema _) => .error
  | .answeredError (.database _) => .error
  | .nonBooleanSetting .. => .warn
  | .unknownSource .. => .warn
  | .emptySortColumn .. => .warn
  | .invalidPageSize .. => .warn
  | _ => .debug

def message : Event → String
  | .emitted _ => "Emitting predicate"
  | .suppressed .. => "Skipping invalid parameter"
  | .omitted (.nonScalarMatch ..) => "Skipping non-scalar match"
  | .omitted (.nonMapRange _) => "Skipping range parameter that is not a map"
  | .omitted .nonScalarSearch => "Skipping non-scalar search parameter"
  | .compiled .. => "Compiled query parameters"
  | .nonMapPayload _ => "Ignoring non-object parameter payload"
  | .malformedPageNumber .. => "Ignoring malformed pagination parameter"
  | .fetchedPage .. => "Fetched page"
  | .answeredError (.schema _) => "Resource schema error"
  | .answeredError (.database _) => "Database error while executing query"
  | .answeredError (.rejected _) => "Rejected query parameters"
  | .nonBooleanSetting name _ => "Ignoring non-boolean " ++ name
  | .unknownSource name _ => "Ignoring unknown " ++ name
  | .emptySortColumn name => "Ignoring empty " ++ name
  | .invalidPageSize name _ => "Ignoring invalid " ++ name

/-- The fields of an event, in order. -/
def fields : Event → List (String × String)
  | .emitted p => [("predicate", p.toText)]
  | .suppressed t r => [("table", t), ("error", r.message)]
  | .omitted (.nonScalarMatch p k) => [("parameter", p), ("kind", k)]
  | .omitted (.nonMapRange p) => [("parameter", p)]
  | .omitted .nonScalarSearch => []
  | .compiled t n => [("table", t), ("predicates", toString n)]
  | .nonMapPayload k => [("kind", k)]
  | .malformedPageNumber p f => [("parameter", p), ("error", f)]
  | .fetchedPage t p n => [("table", t), ("page", toString p.toNat), ("total", toString n.toNat)]
  | .answeredError (.schema f) => [("details", f.message)]
  | .answeredError (.database f) => [("error", f.logText)]
  | .answeredError (.rejected r) => [("error", r.message), ("status", Status.badRequest.toText)]
  | .nonBooleanSetting _ v => [("value", v)]
  | .unknownSource _ v => [("value", v)]
  | .emptySortColumn _ => []
  | .invalidPageSize _ v => [("value", v)]

end Event
end ListQuery
