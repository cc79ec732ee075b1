import ListQuery.Config.Basic
import ListQuery.Event

/-!
Configurations read from environment variables. Each setting has a variable of its own; one that is
unset or unusable leaves the default, and an unusable one is noted in the log.
-/
namespace ListQuery

/-- What reading one variable comes to. -/
inductive Reading (α : Type) where
  | unset
  | unusable (note : Event)
  | usable (value : α)

namespace Reading

variable {α β : Type}

def getD : Reading α → α → α
  | .usable a, _ => a
  | .unset, default => default
  | .unusable _, default => default

def notes : Reading α → List Event
  | .unusable note => [note]
  | .unset => []
  | .usable _ => []

/-- Reads a variable by a rule that may refuse its text. -/
def ofText (raw : Option String) (read : String → Option α) (note : String → Event) :
    Reading α :=
  match raw with
  | none => .unset
  | some s => match read s with
    | some a => .usable a
    | none => .unusable (note s)

end Reading

/-- The variables of an environment that are set. -/
abbrev Environment := String → Option String

namespace Environment

/-- In front of the name of every variable. -/
def namespacePart : String := "URLQUERY_"

/-- The full name of the variable of a setting. -/
def variableName (setting : String) : String := namespacePart ++ setting

def lookup (env : Environment) (setting : String) : Option String := env (variableName setting)

/-- A truth value in one of its spellings. -/
def readBool? (raw : String) : Option Bool :=
  let word := Text.asciiLower (Text.trim raw)
  if ["1", "true", "yes", "on"].contains word then some true
  else if ["0", "false", "no", "off"].contains word then some false
  else none

def bool (env : Environment) (setting : String) : Reading Bool :=
  .ofText (env.lookup setting) readBool? (.nonBooleanSetting (variableName setting))

/-- A text that is not blank, without the blanks around it. -/
def readSortColumn? (raw : String) : Option String :=
  if Text.allBlank raw then none else some (Text.trim raw)

/-- A page size above zero. -/
def readPageSize? (raw : String) : Option UInt64 :=
  (Text.readUInt64? (Text.trim raw)).filter (0 < ·)

def source (env : Environment) : Reading ColumnSource :=
  .ofText ((env.lookup "COLUMN_SOURCE").map fun raw => Text.asciiLower (Text.trim raw))
    ColumnSource.ofName? (.unknownSource (variableName "COLUMN_SOURCE"))

def sortColumn (env : Environment) : Reading String :=
  .ofText (env.lookup "DEFAULT_SORT_COLUMN") readSortColumn?
    fun _ => .emptySortColumn (variableName "DEFAULT_SORT_COLUMN")

def perPage (env : Environment) : Reading UInt64 :=
  .ofText (env.lookup "DEFAULT_PER_PAGE") readPageSize?
    (.invalidPageSize (variableName "DEFAULT_PER_PAGE"))

/-- The configuration of an environment. -/
def config (env : Environment) : Config :=
  let d := Config.extended
  { lenient := (env.bool "IGNORE_INVALID_PARAMETERS").getD d.lenient
    ranges := (env.bool "RANGE_OPERATORS").getD d.ranges
    checkMatches := (env.bool "VALIDATE_PARAMETERS").getD d.checkMatches
    checkAllColumns := (env.bool "VALIDATE_ALL_COLUMNS").getD d.checkAllColumns
    source := env.source.getD d.source
    sortColumn := env.sortColumn.getD d.sortColumn
    perPage := env.perPage.getD d.perPage }

/-- What reading the configuration notes, in the order in which the variables are read. -/
def events (env : Environment) : List Event :=
  (env.bool "IGNORE_INVALID_PARAMETERS").notes ++ (env.bool "RANGE_OPERATORS").notes ++
    (env.bool "VALIDATE_PARAMETERS").notes ++ (env.bool "VALIDATE_ALL_COLUMNS").notes ++
    env.source.notes ++ env.sortColumn.notes ++ env.perPage.notes

end Environment
end ListQuery
