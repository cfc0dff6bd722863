/-!
# `CommandMesh.Text.Hex`: bytes as hexadecimal digits

`hex` writes two lower-case digits for each byte, the high half first. `ofHex?` reads such digits in
either case and refuses an odd number of them. Reports show bodies this way, and tools take bytes in
it. On the wire bytes stand as they are.
-/

set_option autoImplicit false

namespace CommandMesh.Text

/-- The value of a hexadecimal digit. -/
def hexValue? (c : Char) : Option Nat :=
  if '0' ≤ c ∧ c ≤ '9' then some (c.toNat - 48)
  else if 'a' ≤ c ∧ c ≤ 'f' then some (c.toNat - 87)
  else if 'A' ≤ c ∧ c ≤ 'F' then some (c.toNat - 55)
  else none

/-- The two digits of a byte. -/
def hexPair (b : UInt8) : List Char := [Nat.digitChar (b.toNat / 16), Nat.digitChar (b.toNat % 16)]

/-- The digits of bytes. -/
def hexDigits (bs : List UInt8) : List Char := bs.flatMap hexPair

/-- The digits of bytes, as a text. -/
def hex (bs : List UInt8) : String := String.ofList (hexDigits bs)

/-- The bytes that digits stand for, if each pair of them stands for one. -/
def ofHexDigits? : List Char → Option (List UInt8)
  | [] => some []
  | [_] => none
  | a :: b :: rest => do
    let high ← hexValue? a
    let low ← hexValue? b
    return UInt8.ofNat (16 * high + low) :: (← ofHexDigits? rest)

/-- The bytes that a text of digits stands for. -/
def ofHex? (s : String) : Option (List UInt8) := ofHexDigits? s.toList

end CommandMesh.Text
