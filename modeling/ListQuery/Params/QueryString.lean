import ListQuery.Params.Key
import ListQuery.Text.Utf8

/-!
Query strings. Pairs stand between ampersands, a key and its text around the first equals sign, and
each of them is form-encoded: plus signs for spaces, other bytes by `%` and two digits.
-/
namespace ListQuery

open Text

/-- The value of a hexadecimal digit, given by its byte. -/
def hexValue? (b : UInt8) : Option UInt8 :=
  if 0x30 ≤ b ∧ b ≤ 0x39 then some (b - 0x30)
  else if 0x41 ≤ b ∧ b ≤ 0x46 then some (b - 0x37)
  else if 0x61 ≤ b ∧ b ≤ 0x66 then some (b - 0x57)
  else none

/-- Bytes with every `%` that two digits follow decoded; any other `%` stands for itself. -/
def percentDecode : Bytes → Bytes
  | b :: x :: y :: rest =>
    match b == 0x25, hexValue? x, hexValue? y with
    | true, some high, some low => (high * 16 + low) :: percentDecode rest
    | _, _, _ => b :: percentDecode (x :: y :: rest)
  | bytes => bytes

def plusToSpace (bytes : Bytes) : Bytes := bytes.map fun b => if b = 0x2b then 0x20 else b

/-- The text of a form-encoded key or value. -/
def decodeComponent (bytes : Bytes) : String :=
  .ofList (decodeUtf8 (percentDecode (plusToSpace bytes)))

/-- A pair cut at its first equals sign; without one its text is empty. -/
def decodePair (bytes : Bytes) : String × String :=
  (decodeComponent (bytes.takeWhile (· != 0x3d)),
   decodeComponent ((bytes.dropWhile (· != 0x3d)).drop 1))

/-- The pairs of a query string, in order. -/
def queryPairs (query : String) : List (String × String) :=
  let bytes := encodeUtf8 (query.toList.dropWhile (· == '?'))
  ((splitOn 0x26 bytes).filter fun piece => !piece.isEmpty).map decodePair

namespace Params

/-- Stores a text under a written key. A key without a root changes nothing. -/
def store (p : Params) (key text : String) : Params :=
  match Key.read? key with
  | some k => ⟨p.entries.store k (.text text), p.distinct.store k (.text text)⟩
  | none => p

/-- The parameters that come from storing the pairs in turn. -/
def ofTexts (pairs : List (String × String)) : Params :=
  pairs.foldl (fun p e => p.store e.1 e.2) empty

def ofQuery (query : String) : Params := ofTexts (queryPairs query)

/-- The query part of an address: what follows its first question mark, without the fragment. -/
def queryPart? (address : String) : Option String :=
  match (address.toList.takeWhile (· != '#')).dropWhile (· != '?') with
  | [] => none
  | _ :: query => some (.ofList query)

/-- The parameters of the address of a request. -/
def ofAddress (address : String) : Params := ((queryPart? address).map ofQuery).getD empty

end Params
end ListQuery
