import ListQuery.Decimal.Binary64

/-!
Data bound to the placeholders of a statement, and the identifiers among them.
-/
namespace ListQuery.Sql

/-- A universally unique identifier: 32 hexadecimal digits. -/
structure Uuid where
  digits : List (Fin 16)
  length_eq : digits.length = 32
  deriving DecidableEq

/-- The value of a hexadecimal digit, in either case. -/
def hexDigit? (c : Char) : Option (Fin 16) :=
  if '0' ≤ c ∧ c ≤ '9' then some (Fin.ofNat 16 (c.toNat - '0'.toNat))
  else if 'a' ≤ c ∧ c ≤ 'f' then some (Fin.ofNat 16 (c.toNat - 'a'.toNat + 10))
  else if 'A' ≤ c ∧ c ≤ 'F' then some (Fin.ofNat 16 (c.toNat - 'A'.toNat + 10))
  else none

namespace Uuid

/-- Exactly 32 hexadecimal digits. -/
def ofDigits? (cs : List Char) : Option Uuid :=
  (cs.mapM hexDigit?).bind fun ds => if h : ds.length = 32 then some ⟨ds, h⟩ else none

/-- Groups of 8, 4, 4, 4 and 12 digits with hyphens between them. -/
def ofHyphenated? (cs : List Char) : Option Uuid :=
  let hyphens := [cs[8]?, cs[13]?, cs[18]?, cs[23]?]
  if cs.length = 36 ∧ hyphens = List.replicate 4 (some '-') then
    ofDigits? (cs.take 8 ++ (cs.drop 9).take 4 ++ (cs.drop 14).take 4 ++ (cs.drop 19).take 4 ++
      cs.drop 24)
  else none

/-- The identifier that a text writes: its digits alone, hyphenated, or hyphenated within braces or
after `urn:uuid:`. -/
def read? (s : String) : Option Uuid :=
  let cs := s.toList
  if cs.length = 32 then ofDigits? cs
  else if cs.length = 38 ∧ cs.head? = some '\x7b' ∧ cs.getLast? = some '\x7d' then
    ofHyphenated? (cs.drop 1).dropLast
  else if cs.length = 45 ∧ (cs.take 9).map Char.toLower = "urn:uuid:".toList then
    ofHyphenated? (cs.drop 9)
  else ofHyphenated? cs

/-- The hyphenated form, in lower case. -/
def toText (u : Uuid) : String :=
  let cs := u.digits.map fun d => Nat.digitChar d.val
  .ofList (cs.take 8 ++ '-' :: (cs.drop 8).take 4 ++ '-' :: (cs.drop 12).take 4 ++
    '-' :: (cs.drop 16).take 4 ++ '-' :: cs.drop 20)

end Uuid

/-- A value bound to a placeholder. -/
inductive Datum where
  | bool (b : Bool)
  | int32 (n : Int32)
  | int64 (n : Int64)
  | uint64 (n : UInt64)
  | double (x : Binary64)
  /-- A text; `none` is the missing one. -/
  | text (s : Option String)
  | uuid (u : Uuid)
  deriving DecidableEq

end ListQuery.Sql
