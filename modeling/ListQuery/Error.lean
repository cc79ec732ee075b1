import ListQuery.Text.Quoted
import ListQuery.Value.Text

/-!
Errors of a listing, by their causes, with the wording, the status and the response of each.
Details of the schema and of the database are for the log and never part of a response.
-/
namespace ListQuery

/-- Why a resource cannot be queried. -/
inductive SchemaFault where
  | noColumn (table : String)
  | unknownTable (table : String)
  /-- The table of an entity was looked up under another name. -/
  | otherTable (table entityTable : String)
  /-- A fault that the resource itself describes. -/
  | described (details : String)
  deriving DecidableEq, Repr

/-- What a request may not ask. Lenient compiling passes over it. -/
inductive Rejection where
  | invalidParameter (parameter : String)
  | unknownScope (scope resource : String)
  deriving DecidableEq, Repr

/-- A fault that the database reports. -/
inductive DbFault where
  | custom (text : String)
  | recordNotFound (text : String)
  | query (text : String)
  deriving DecidableEq, Repr

inductive Error where
  | schema (fault : SchemaFault)
  | rejected (reason : Rejection)
  | database (fault : DbFault)
  deriving DecidableEq, Repr

def SchemaFault.message : SchemaFault → String
  | .noColumn t => "Resource \"" ++ t ++ "\" requires at least one search column. 0 given."
  | .unknownTable t => "Unknown table \"" ++ t ++ "\""
  | .otherTable t e => "Unknown table \"" ++ t ++ "\" (entity maps to \"" ++ e ++ "\")"
  | .described details => details

def Rejection.message : Rejection → String
  | .invalidParameter p => "Invalid parameter \"" ++ p ++ "\" received."
  | .unknownScope s r => "The scope \"" ++ s ++ "\" does not exist in " ++ r ++ "."

namespace DbFault

def message : DbFault → String
  | .custom t => "Custom Error: " ++ t
  | .recordNotFound t => "RecordNotFound Error: " ++ t
  | .query t => "Query Error: " ++ t

/-- A fault as the log shows it, its text quoted. -/
def logText : DbFault → String
  | .custom t => "Custom(" ++ Text.quoted t ++ ")"
  | .recordNotFound t => "RecordNotFound(" ++ Text.quoted t ++ ")"
  | .query t => "Query(Internal(" ++ Text.quoted t ++ "))"

end DbFault

/-- The status of a response. -/
inductive Status where
  | ok
  | badRequest
  | internalError
  deriving DecidableEq, Repr

namespace Status

def code : Status → Nat
  | .ok => 200
  | .badRequest => 400
  | .internalError => 500

def toText : Status → String
  | .ok => "200 OK"
  | .badRequest => "400 Bad Request"
  | .internalError => "500 Internal Server Error"

end Status

/-- What is sent back: a status and a body, which is always a value as text. -/
structure Response where
  status : Status
  body : String
  deriving DecidableEq, Repr

namespace Response

def contentType : String := "application/json"

def ofValue (status : Status) (v : Value) : Response := ⟨status, v.toText⟩

end Response

namespace Error

def message : Error → String
  | .schema f => f.message
  | .rejected r => r.message
  | .database f => "Database error: " ++ f.message

/-- Whether lenient compiling may pass over the error. -/
def isSuppressible : Error → Bool
  | .rejected _ => true
  | .schema _ => false
  | .database _ => false

def status : Error → Status
  | .rejected _ => .badRequest
  | .schema _ => .internalError
  | .database _ => .internalError

/-- The wording that a client may see. -/
def userMessage : Error → String
  | .rejected r => r.message
  | .schema _ => "The resource cannot be queried"
  | .database _ => "A database error occurred"

/-- The text of the fault that caused the error, where it came from the database. -/
def source? : Error → Option String
  | .database f => some f.message
  | .schema _ => none
  | .rejected _ => none

def response (e : Error) : Response :=
  .ofValue e.status (.map [("error", .text e.userMessage)])

end Error
end ListQuery
