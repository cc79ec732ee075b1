import ListQuery.Value.Basic
import ListQuery.Text.Quoted

/-!
Values as text: the compact notation of data formats, without a space, in which a text is quoted
and only quotes, backslashes and control characters are escaped.
-/
namespace ListQuery

namespace Text

/-- A character inside a quoted text of a value. -/
def escapeChar (c : Char) : List Char :=
  if c = '"' then ['\\', '"']
  else if c = '\\' then ['\\', '\\']
  else if c = '\x08' then ['\\', 'b']
  else if c = '\x0c' then ['\\', 'f']
  else if c = '\n' then ['\\', 'n']
  else if c = '\r' then ['\\', 'r']
  else if c = '\t' then ['\\', 't']
  else if c.toNat < 0x20 then
    '\\' :: 'u' :: '0' :: '0' :: (if c.toNat < 0x10 then '0' :: hex c.toNat else hex c.toNat)
  else [c]

def escaped (s : String) : List Char := '"' :: s.toList.flatMap escapeChar ++ ['"']

end Text

/-- Pieces with a comma between each two. -/
def joinCommas : List (List Char) → List Char
  | [] => []
  | [piece] => piece
  | piece :: pieces => piece ++ ',' :: joinCommas pieces

mutual

/-- The characters of a value as text. -/
def Value.chars : Value → List Char
  | .null => "null".toList
  | .bool b => (if b then "true" else "false").toList
  | .number n => n.text.toList
  | .text s => Text.escaped s
  | .list items => '[' :: joinCommas (Value.charsAll items) ++ [']']
  | .map entries => '\x7b' :: joinCommas (Entries.charsEach entries) ++ ['\x7d']

def Value.charsAll : List Value → List (List Char)
  | [] => []
  | v :: vs => v.chars :: Value.charsAll vs

def Entries.charsEach : List (String × Value) → List (List Char)
  | [] => []
  | (k, v) :: es => (Text.escaped k ++ ':' :: v.chars) :: Entries.charsEach es

end

def Value.toText (v : Value) : String := .ofList v.chars

end ListQuery
