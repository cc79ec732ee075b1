/-!
UTF-8. Texts become bytes by the standard encoding; bytes become text again with every maximal
ill-formed part replaced by one replacement character, so that reading never fails.
-/
namespace ListQuery.Text

abbrev Bytes := List UInt8

/-- The bytes of a character. -/
def encodeChar (c : Char) : Bytes :=
  let n := c.toNat
  if n < 0x80 then [n.toUInt8]
  else if n < 0x800 then [(0xc0 + n / 0x40).toUInt8, (0x80 + n % 0x40).toUInt8]
  else if n < 0x10000 then
    [(0xe0 + n / 0x1000).toUInt8, (0x80 + n / 0x40 % 0x40).toUInt8, (0x80 + n % 0x40).toUInt8]
  else
    [(0xf0 + n / 0x40000).toUInt8, (0x80 + n / 0x1000 % 0x40).toUInt8,
     (0x80 + n / 0x40 % 0x40).toUInt8, (0x80 + n % 0x40).toUInt8]

def encodeUtf8 (cs : List Char) : Bytes := cs.flatMap encodeChar

/-- Written in place of an ill-formed part. -/
def replacement : Char := '\ufffd'

/-- A character that has begun: the value of the bytes read, how many bytes are owed, and the
smallest and largest byte that may come next. -/
structure Pending where
  value : Nat
  owed : Nat
  least : Nat
  most : Nat

/-- What a byte that starts a longer character promises; `none` for a byte that starts none. -/
def Pending.ofLead (b : Nat) : Option Pending :=
  if 0xc2 ≤ b ∧ b ≤ 0xdf then some ⟨b - 0xc0, 1, 0x80, 0xbf⟩
  else if b = 0xe0 then some ⟨0, 2, 0xa0, 0xbf⟩
  else if b = 0xed then some ⟨0xd, 2, 0x80, 0x9f⟩
  else if 0xe1 ≤ b ∧ b ≤ 0xef then some ⟨b - 0xe0, 2, 0x80, 0xbf⟩
  else if b = 0xf0 then some ⟨0, 3, 0x90, 0xbf⟩
  else if b = 0xf4 then some ⟨4, 3, 0x80, 0x8f⟩
  else if 0xf1 ≤ b ∧ b ≤ 0xf3 then some ⟨b - 0xf0, 3, 0x80, 0xbf⟩
  else none

/-- A byte read between characters: what it writes, and the character it begins. -/
def startChar (b : Nat) : List Char × Option Pending :=
  if b < 0x80 then ([Char.ofNat b], none)
  else match Pending.ofLead b with
    | some p => ([], some p)
    | none => ([replacement], none)

/-- A byte read inside a character. One that cannot continue it ends it as ill-formed and is read
again between characters. -/
def Pending.next (p : Pending) (b : Nat) : List Char × Option Pending :=
  if p.least ≤ b ∧ b ≤ p.most then
    let value := p.value * 0x40 + (b - 0x80)
    if p.owed = 1 then ([Char.ofNat value], none) else ([], some ⟨value, p.owed - 1, 0x80, 0xbf⟩)
  else
    let (out, pending) := startChar b
    (replacement :: out, pending)

/-- The text of the bytes that follow a character that has begun or not. -/
def decodeAfter : Option Pending → Bytes → List Char
  | none, [] => []
  | some _, [] => [replacement]
  | none, b :: bytes =>
    let (out, pending) := startChar b.toNat
    out ++ decodeAfter pending bytes
  | some p, b :: bytes =>
    let (out, pending) := p.next b.toNat
    out ++ decodeAfter pending bytes

/-- The text of any bytes. -/
def decodeUtf8 (bytes : Bytes) : List Char := decodeAfter none bytes

end ListQuery.Text
