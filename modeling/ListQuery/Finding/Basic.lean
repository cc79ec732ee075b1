import ListQuery.Config.Basic
import ListQuery.Event

/-!
Findings: what compiling comes upon in a request, in order, the same whether it is lenient or
strict. They are gone through one by one: lenient compiling passes over what is refused, strict
compiling fails at it.
-/
namespace ListQuery

/-- What a request is held against. -/
structure Rules where
  config : Config
  table : String
  /-- The allow-list. -/
  allowed : List String
  knowsScope : String → Bool

def Rules.allows (r : Rules) (column : String) : Bool := r.allowed.contains column

inductive Finding where
  | emit (predicate : Predicate)
  | refuse (reason : Rejection)
  | omit (what : Omission)

namespace Finding

def emitted? : Finding → Option Predicate
  | .emit p => some p
  | .refuse _ => none
  | .omit _ => none

def refused? : Finding → Option Rejection
  | .refuse r => some r
  | .emit _ => none
  | .omit _ => none

end Finding

/-- What is found for a column whose name may have to be allowed: `found` if it need not be or is,
a refusal and then `instead` if it is not. -/
def Rules.guarded (r : Rules) (check : Bool) (column : String) (found instead : List Finding) :
    List Finding :=
  if check && !r.allows column then .refuse (.invalidParameter column) :: instead else found

/-- Lenient compiling passes over an error that may be passed over; everything else it fails with. -/
def Error.reject (e : Error) (lenient : Bool) : Except Error Unit :=
  if lenient && e.isSuppressible then .ok () else .error e

/-- Findings in the order of the request. -/
abbrev Findings := List Finding

namespace Findings

/-- The predicates found. -/
def description (fs : Findings) : Description := fs.filterMap Finding.emitted?

/-- The description that the findings come to, unless one of them ends compiling. -/
def collect (lenient : Bool) : Findings → Except Error Description
  | [] => .ok []
  | .emit p :: fs => (collect lenient fs).map (p :: ·)
  | .omit _ :: fs => collect lenient fs
  | .refuse r :: fs => (Error.rejected r).reject lenient >>= fun _ => collect lenient fs

/-- The events of compiling, up to the refusal that ends it if one does. -/
def events (lenient : Bool) (table : String) : Findings → List Event
  | [] => []
  | .emit p :: fs => .emitted p :: events lenient table fs
  | .omit o :: fs => .omitted o :: events lenient table fs
  | .refuse r :: fs => match (Error.rejected r).reject lenient with
    | .ok _ => .suppressed table r :: events lenient table fs
    | .error _ => []

end Findings
end ListQuery
