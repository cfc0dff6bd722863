import CommandMesh.Json.Basic

/-!
# `CommandMesh.Json.Printer`: values to bytes

`Json.render` writes a value without white space, members in their order. Between quotes it escapes
the quote, the backslash and the controls below the space, and leaves everything else as it is.

A value is turned into tokens first and the tokens into bytes after that, so the printer takes the
same two steps as the parser in the opposite order. `Proofs.Json.Lexing` shows that the bytes of
tokens are lexed as these tokens, and `Proofs.Json.Parsing` that the tokens of a value are parsed as
this value.

Escaping goes by bytes and not by characters. That is sound for UTF-8, where every byte of a longer
character is above 127 and so never one of the bytes that are escaped.
-/

set_option autoImplicit false

namespace CommandMesh.Json

/-- The tokens of a value, before those that follow it. -/
def tokens : Json → List Token
  | .null => [.null]
  | .bool b => [.bool b]
  | .number n => [.number n]
  | .text t => [.text t]
  | .array items => .leftBracket :: (itemTokens items ++ [.rightBracket])
  | .object members => .leftBrace :: (memberTokens members ++ [.rightBrace])
where
  /-- The tokens of the items of an array, with the commas between them. -/
  itemTokens : List Json → List Token
    | [] => []
    | [v] => tokens v
    | v :: rest => tokens v ++ .comma :: itemTokens rest
  /-- The tokens of the members of an object, with the commas between them. -/
  memberTokens : List (Option String × Json) → List Token
    | [] => []
    | [(name, v)] => .text name :: .colon :: tokens v
    | (name, v) :: rest => .text name :: .colon :: (tokens v ++ .comma :: memberTokens rest)

/-- A hexadecimal digit as a byte. -/
def hexDigit (n : Nat) : UInt8 := ascii (Nat.digitChar n)

/-- One byte of a text as it stands between quotes. -/
def quotedByte (b : UInt8) : List UInt8 :=
  if b = 34 then [92, 34]
  else if b = 92 then [92, 92]
  else if b = 8 then [92, 98]
  else if b = 9 then [92, 116]
  else if b = 10 then [92, 110]
  else if b = 12 then [92, 102]
  else if b = 13 then [92, 114]
  else if b < 32 then [92, 117, 48, 48, hexDigit (b.toNat / 16), hexDigit (b.toNat % 16)]
  else [b]

/-- A text between quotes. -/
def quotedBytes (s : String) : List UInt8 := 34 :: ((Text.bytes s).flatMap quotedByte ++ [34])

/-- The bytes of a token. A text that is none is written as an empty one. -/
def Token.bytes : Token → List UInt8
  | .leftBracket => [91]
  | .rightBracket => [93]
  | .leftBrace => [123]
  | .rightBrace => [125]
  | .comma => [44]
  | .colon => [58]
  | .null => [110, 117, 108, 108]
  | .bool true => [116, 114, 117, 101]
  | .bool false => [102, 97, 108, 115, 101]
  | .number n => n
  -- A value that the library writes has no such text in it.
  | .text t => quotedBytes (t.getD "")

/-- The bytes of a value, without white space. -/
def render (v : Json) : List UInt8 := v.tokens.flatMap Token.bytes

end CommandMesh.Json
