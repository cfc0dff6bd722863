import CommandMesh.Text.Hex

/-!
# `CommandMesh.Text.Ascii`: texts in ASCII alone

`asciiOnly` writes every character above 127 by number, as its units of UTF-16. In a JSON text such
characters stand between quotes only, so the value that the text spells stays the same. Tools use it
for their output, so that it survives a channel of any encoding; the payloads of a mesh are UTF-8
and are left as they are.
-/

set_option autoImplicit false

namespace CommandMesh.Text

/-- The units of UTF-16 of a character: one, or the two halves of a surrogate pair. -/
def units16 (c : Char) : List Nat :=
  let n := c.toNat
  if n < 0x10000 then [n]
  else [0xD800 + (n - 0x10000) / 0x400, 0xDC00 + (n - 0x10000) % 0x400]

/-- A unit of UTF-16 by number. -/
def unitEscape (u : Nat) : List Char :=
  ['\\', 'u'] ++ hexPair (UInt8.ofNat (u / 256)) ++ hexPair (UInt8.ofNat (u % 256))

/-- A character, by number if it is above 127. -/
def asciiChar (c : Char) : List Char :=
  if c.toNat < 128 then [c] else (units16 c).flatMap unitEscape

/-- The text with every character above 127 by number. -/
def asciiOnly (s : String) : String := String.ofList (s.toList.flatMap asciiChar)

example : asciiOnly "é😀" = "\\u00e9\\ud83d\\ude00" := by decide

end CommandMesh.Text
