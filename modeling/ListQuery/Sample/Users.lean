import ListQuery.Plan

/-!
The users of a sample database, and resources that show them in different ways.
-/
namespace ListQuery.Sample

open Sql

def users : Entity :=
  { table := "users"
    columns :=
      [{ field := "id", type := .integer }, { field := "name", type := .string },
       { field := "email", type := .string }, { field := "password", type := .string },
       { field := "age", type := .integer }, { field := "active", type := .boolean },
       { field := "created_at", type := .bigInteger }] }

/-- A row of the users. -/
structure User where
  id : Int32
  name : String
  email : String
  password : String
  age : Int32
  active : Bool
  createdAt : Int64
  deriving DecidableEq, Repr

/-- A user as a value, without the password. -/
def User.toValue (u : User) : Value :=
  .map [("id", .number (.ofInt64 u.id.toInt64)), ("name", .text u.name), ("email", .text u.email),
    ("age", .number (.ofInt64 u.age.toInt64)), ("active", .bool u.active),
    ("created_at", .number (.ofInt64 u.createdAt))]

/-- Users by whether they are active; `"0"` and `"false"` ask for those who are not. -/
def activeScope (query : Select) (value : Value) : Select :=
  let wanted := match value with
    | .text s => s != "0" && s != "false"
    | _ => true
  query.filter (.single (.compare ⟨some "users", "active"⟩ .equal (.bool wanted)))

/-- Users above an age, if the value is the text of one. -/
def olderThanScope (query : Select) (value : Value) : Select :=
  match value with
  | .text s => match Text.readInt32? s with
    | some age =>
      query.filter (.single (.compare ⟨some "users", "age"⟩ (.range .greater) (.int32 age)))
    | none => query
  | _ => query

def userScopes : Scopes Select :=
  Scopes.register (Scopes.register .empty "active" activeScope) "older_than" olderThanScope

/-- Users with some columns to fill in and the password hidden. -/
def usersResource : Resource :=
  { entity := users
    fillable := ["name", "email", "password", "age"]
    hidden := ["password"]
    scopes := userScopes }

/-- Users on pages of two. -/
def compactUsers : Resource := { entity := users, perPage := some 2 }

/-- Users known by their address, with a page size of zero and repeated columns. -/
def zeroUsers : Resource :=
  { entity := users
    idColumn := "email"
    perPage := some 0
    fillable := ["age", "email", "nickname", "age"] }

/-- Users under the name of a table that is not theirs. -/
def ghostUsers : Resource := { entity := users, table := "ghosts" }

/-- Users with every column hidden. -/
def sealedUsers : Resource := { entity := users, hidden := users.columnNames }

end ListQuery.Sample
