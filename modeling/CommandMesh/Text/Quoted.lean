import CommandMesh.Text.Ranges
import CommandMesh.Text.Quoted.Table

/-!
# `CommandMesh.Text.Quoted`: texts between quotes for diagnostics

`quoted` writes a text so that every character of it can be seen: quotes and backslashes are
escaped, the common controls have letters of their own, and characters without a glyph are written
by number. An apostrophe stands as it is.

The form is for messages that name a text, such as the pattern of a route or what a handler has
raised, and is not that of JSON: JSON knows no escape by a number in braces, and `Json.Printer`
leaves characters without a glyph alone.
-/

set_option autoImplicit false

namespace CommandMesh.Text

/-- The number in lower-case hexadecimal without leading zeros. -/
def hexText (n : Nat) : String := String.ofList (Nat.toDigits 16 n)

/-- One character as it stands between quotes. -/
def quotedChar (c : Char) : String :=
  if c = '\x00' then "\\0"
  else if c = '\t' then "\\t"
  else if c = '\n' then "\\n"
  else if c = '\r' then "\\r"
  else if c = '"' then "\\\""
  else if c = '\\' then "\\\\"
  else if covers unprintableRanges c.toNat then "\\u\x7b" ++ hexText c.toNat ++ "\x7d"
  else String.singleton c

/-- The text between quotes. -/
def quoted (s : String) : String :=
  "\"" ++ String.join (s.toList.map quotedChar) ++ "\""

/-- An optional text between quotes. -/
def quotedOption : Option String → String
  | none => "None"
  | some s => "Some(" ++ quoted s ++ ")"

end CommandMesh.Text
