import ListQuery.Params.Basic

/-!
Keys in bracket notation. `gte[age]` leads from the root `gte` to the entry `age` of its map, and
`ids[]` to a new element at the end of a list. Storing under a key replaces what is of the wrong
kind on the way and leaves everything else in its place.
-/
namespace ListQuery

/-- One step of a key below its root. -/
inductive Step where
  | append
  | named (segment : String)
  deriving DecidableEq, Repr

structure Key where
  root : String
  path : List Step
  deriving DecidableEq, Repr

def Step.ofSegment (segment : List Char) : Step :=
  if segment.isEmpty then .append else .named (.ofList segment)

/-- The steps written after a root. `opened` holds the characters since a bracket that is still
open. Reading ends at the first character outside of brackets; a bracket left open counts for
nothing. -/
def Step.readPath (opened : Option (List Char)) : List Char → List Step
  | [] => []
  | c :: cs =>
    match opened with
    | none => if c = '[' then readPath (some []) cs else []
    | some segment =>
      if c = ']' then .ofSegment segment :: readPath none cs
      else readPath (some (segment ++ [c])) cs

/-- The key that a text writes. A key without a root is none. -/
def Key.read? (raw : String) : Option Key :=
  match raw.toList.takeWhile (· != '[') with
  | [] => none
  | root => some ⟨.ofList root, Step.readPath none (raw.toList.dropWhile (· != '['))⟩

/-- The elements of a list; none for anything else. -/
def Value.itemsOf : Option Value → List Value
  | some (.list items) => items
  | _ => []

/-- The entries of a map; none for anything else. -/
def Value.entriesOf : Option Value → Entries
  | some (.map entries) => entries
  | _ => []

/-- What a place holds after `value` has been stored under `path` below it. -/
def Value.store (slot : Option Value) : List Step → Value → Value
  | [], value => value
  | .append :: path, value => .list (Value.itemsOf slot ++ [Value.store none path value])
  | .named segment :: path, value =>
    .map ((Value.entriesOf slot).alter segment fun inner => Value.store inner path value)

/-- The entries after `value` has been stored under a key. -/
def Entries.store (es : Entries) (key : Key) (value : Value) : Entries :=
  es.alter key.root fun slot => Value.store slot key.path value

/-- The entries of a place without repeated keys repeat none. -/
theorem Value.distinct_entriesOf {slot : Option Value} (hs : ∀ v ∈ slot, v.Distinct) :
    Entries.Distinct (Value.entriesOf slot) := by
  match slot, hs with
  | some (.map entries), hs => exact Value.distinct_map_iff.1 (hs _ rfl)
  | none, _ | some .null, _ | some (.bool _), _ | some (.number _), _ | some (.text _), _
  | some (.list _), _ => exact Entries.distinct_nil

theorem Value.distinct_store {slot : Option Value} (hs : ∀ v ∈ slot, v.Distinct) {value : Value}
    (hv : value.Distinct) (path : List Step) : (Value.store slot path value).Distinct := by
  induction path generalizing slot with
  | nil => exact hv
  | cons step path ih =>
    cases step with
    | append =>
      rw [Value.store, Value.distinct_list_iff]
      intro w hw
      rcases List.mem_append.1 hw with hw | hw
      · match slot, hs with
        | some (.list items), hs => exact Value.distinct_list_iff.1 (hs _ rfl) w hw
        | none, _ | some .null, _ | some (.bool _), _ | some (.number _), _ | some (.text _), _
        | some (.map _), _ => simp [Value.itemsOf] at hw
      · rw [List.mem_singleton.1 hw]
        exact ih (by simp)
    | named segment =>
      rw [Value.store, Value.distinct_map_iff]
      have he := Value.distinct_entriesOf hs
      exact he.alter (ih fun v hv => he.get? hv)

theorem Entries.Distinct.store {es : Entries} (h : es.Distinct) (key : Key) {value : Value}
    (hv : value.Distinct) : (es.store key value).Distinct :=
  h.alter (Value.distinct_store (fun _ hs => h.get? hs) hv key.path)

end ListQuery
