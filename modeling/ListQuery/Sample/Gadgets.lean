import ListQuery.Plan

/-!
The gadgets of a sample database: a column of every type.
-/
namespace ListQuery.Sample

open Sql

def gadgets : Entity :=
  { table := "gadgets"
    columns :=
      [{ field := "id", type := .bigInteger }, { field := "tiny", type := .tinyInteger },
       { field := "small", type := .smallInteger }, { field := "count", type := .integer },
       { field := "utiny", type := .tinyUnsigned }, { field := "usmall", type := .smallUnsigned },
       { field := "ucount", type := .unsigned }, { field := "ubig", type := .bigUnsigned },
       { field := "ratio", type := .float }, { field := "weight", type := .double },
       { field := "price", type := .decimal }, { field := "active", type := .boolean },
       { field := "token", type := .uuid }, { field := "name", type := .string },
       { field := "body_text", type := .text }, { field := "code", type := .char },
       { field := "meta", type := .json }, { field := "blob", type := .binary },
       { field := "made_at", type := .dateTime },
       { field := "label", name := "displayLabel", type := .string }] }

/-- Gadgets whose name is the value, written as text. -/
def namedScope (query : Select) (value : Value) : Select :=
  query.filter (.single (.compare ⟨some "gadgets", "name"⟩ .equal (.text (some value.toText))))

def gadgetScopes : Scopes Select := Scopes.register .empty "named" namedScope

def gadgetsResource : Resource :=
  { entity := gadgets
    fillable := ["name", "label", "price"]
    hidden := ["token", "blob"]
    scopes := gadgetScopes }

end ListQuery.Sample
