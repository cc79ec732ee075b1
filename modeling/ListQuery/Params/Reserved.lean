/-!
Names that steer a listing instead of matching a column.
-/
namespace ListQuery

/-- Names that every flavour of request reserves. -/
def controlNames : List String :=
  ["page", "per_page", "search", "search_by", "order", "order_by", "scopes"]

/-- Names reserved where a request may give ranges. -/
def rangeNames : List String := ["lt", "gt", "lte", "gte", "min", "max"]

/-- Whether a name is reserved, with or without ranges. -/
def isReserved (ranges : Bool) (name : String) : Bool :=
  controlNames.contains name || (ranges && rangeNames.contains name)

end ListQuery
