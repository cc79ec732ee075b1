import ListQuery.Config.Basic

/-!
Configurations read from values. A map gives settings by name and a list gives them in order;
either may leave settings out, and every setting that is given must have its own kind.
-/
namespace ListQuery

namespace Value

def bool? : Value → Option Bool
  | .bool b => some b
  | _ => none

def text? : Value → Option String
  | .text s => some s
  | _ => none

/-- A whole number that is not negative. -/
def count? : Value → Option UInt64
  | .number (.integer n _) => if 0 ≤ n then some (UInt64.ofNat n.toNat) else none
  | _ => none

end Value

namespace ColumnSource

/-- A source by its name, alone or as the one key of a map that gives it nothing. -/
def ofValue? : Value → Option ColumnSource
  | .text s => ofName? s
  | .map [(s, .null)] => ofName? s
  | _ => none

end ColumnSource

namespace Config

/-- The configuration after one setting has been read, or nothing if its value has another kind. -/
structure Setting where
  name : String
  read? : Config → Value → Option Config

/-- The settings in the order in which a list gives them. -/
def settings : List Setting :=
  [⟨"ignore_invalid_parameters", fun c v => v.bool?.map fun b => { c with lenient := b }⟩,
   ⟨"range_operators", fun c v => v.bool?.map fun b => { c with ranges := b }⟩,
   ⟨"validate_parameters", fun c v => v.bool?.map fun b => { c with checkMatches := b }⟩,
   ⟨"validate_all_columns", fun c v => v.bool?.map fun b => { c with checkAllColumns := b }⟩,
   ⟨"column_source", fun c v => (ColumnSource.ofValue? v).map fun s => { c with source := s }⟩,
   ⟨"default_sort_column", fun c v => v.text?.map fun s => { c with sortColumn := s }⟩,
   ⟨"default_per_page", fun c v => v.count?.map fun n => { c with perPage := n }⟩]

/-- Reads an entry of a map. Names that are no setting are passed over. -/
def readEntry? (c : Config) (entry : String × Value) : Option Config :=
  match settings.find? (·.name = entry.1) with
  | some setting => setting.read? c entry.2
  | none => some c

/-- The configuration that a value gives, with the defaults for what it leaves out. -/
def ofValue? : Value → Option Config
  | .map entries => entries.foldlM readEntry? extended
  | .list items =>
    if settings.length < items.length then none
    else (settings.zip items).foldlM (fun c p => p.1.read? c p.2) extended
  | _ => none

end Config
end ListQuery
