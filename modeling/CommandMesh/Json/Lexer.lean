import CommandMesh.Json.Basic

/-!
# `CommandMesh.Json.Lexer`: bytes to tokens

`Json.lex` reads a whole text as tokens and refuses it if any part of it is none. White space
(space, tab, line feed, carriage return) separates tokens and is dropped here, so the parser never
sees it. Bytes are compared as numbers: 34 is the quote, 92 the backslash, 45 the minus sign.

Numbers follow the grammar of JSON: no leading zeros, no leading plus, digits after a point and
after an exponent mark. The spelling is kept and not evaluated.

A text between quotes is scanned byte by byte. What its escapes stand for is collected in a
`TextScan` as UTF-8, so that plain bytes need no decoding on the way and the whole is checked once,
at the closing quote. Control characters and unknown escapes make the text no token. Half a
surrogate pair or bad UTF-8 do not: they make a text without contents.

The recursion of `lexWithin` is on a bound, because `takeToken?` returns a rest whose length it does
not promise. The number of bytes is always enough, since a token takes a byte at least, and
`Proofs.Json.Lexing` shows that it is for every text that is spelled by the grammar.
-/

set_option autoImplicit false

namespace CommandMesh.Json

/-- Whether the byte is white space. -/
def isSpace (b : UInt8) : Bool := b = 32 || b = 9 || b = 10 || b = 13

/-! ### Numbers -/

/-- The leading digits and the rest; `none` if there is no digit. -/
def takeDigits? (bs : List UInt8) : Option (List UInt8 × List UInt8) :=
  match bs.takeWhile isDigit with
  | [] => none
  | ds => some (ds, bs.dropWhile isDigit)

/-- The whole part of a number: one zero, or digits that start with another one. -/
def takeWhole? (bs : List UInt8) : Option (List UInt8 × List UInt8) :=
  match bs with
  | 48 :: rest => some ([48], rest)
  | _ => takeDigits? bs

/-- A point and digits, if there is a point. -/
def takeFraction? (bs : List UInt8) : Option (List UInt8 × List UInt8) :=
  match bs with
  | 46 :: rest => (takeDigits? rest).map fun (ds, rest) => (46 :: ds, rest)
  | _ => some ([], bs)

/-- An exponent mark, a sign if there is one, and digits, if there is an exponent mark. -/
def takeExponent? (bs : List UInt8) : Option (List UInt8 × List UInt8) :=
  match bs with
  | e :: rest =>
    if e = 101 ∨ e = 69 then
      match rest with
      | s :: rest' =>
        if s = 43 ∨ s = 45 then
          (takeDigits? rest').map fun (ds, r) => (e :: s :: ds, r)
        else (takeDigits? rest).map fun (ds, r) => (e :: ds, r)
      | [] => none
    else some ([], bs)
  | [] => some ([], [])

/-- A number without its sign. -/
def takeUnsigned? (bs : List UInt8) : Option (List UInt8 × List UInt8) := do
  let (whole, rest) ← takeWhole? bs
  let (fraction, rest) ← takeFraction? rest
  let (exponent, rest) ← takeExponent? rest
  some (whole ++ fraction ++ exponent, rest)

/-- A number with its sign. -/
def takeNumber? (bs : List UInt8) : Option (List UInt8 × List UInt8) :=
  match bs with
  | 45 :: rest => (takeUnsigned? rest).map fun (ds, r) => (45 :: ds, r)
  | _ => takeUnsigned? bs

/-! ### Texts -/

/-- The value of a hexadecimal digit. -/
def hexValue? (b : UInt8) : Option Nat :=
  if 48 ≤ b ∧ b ≤ 57 then some (b.toNat - 48)
  else if 97 ≤ b ∧ b ≤ 102 then some (b.toNat - 87)
  else if 65 ≤ b ∧ b ≤ 70 then some (b.toNat - 55)
  else none

/-- The value of four hexadecimal digits. -/
def hexUnit? (a b c d : UInt8) : Option Nat := do
  some (((← hexValue? a) * 16 + (← hexValue? b)) * 256 + (← hexValue? c) * 16 + (← hexValue? d))

/-- The character that a letter stands for after a backslash. -/
def escaped? (b : UInt8) : Option Char :=
  if b = 34 then some '"'
  else if b = 92 then some '\\'
  else if b = 47 then some '/'
  else if b = 98 then some '\x08'
  else if b = 102 then some '\x0c'
  else if b = 110 then some '\n'
  else if b = 114 then some '\r'
  else if b = 116 then some '\t'
  else none

/-- What has been read of a text. -/
structure TextScan where
  /-- The contents so far in UTF-8, last byte first. -/
  reversed : List UInt8 := []
  /-- The first half of a surrogate pair that was just read. -/
  high : Option Nat := none
  /-- Half a surrogate pair stood alone somewhere. -/
  broken : Bool := false

namespace TextScan

/-- Adds bytes as they stand. A first half that waits for its second stays alone. -/
def push (s : TextScan) (bs : List UInt8) : TextScan :=
  { reversed := bs.reverse ++ s.reversed, high := none, broken := s.broken || s.high.isSome }

/-- Adds a character. -/
def pushChar (s : TextScan) (c : Char) : TextScan := s.push (String.utf8EncodeChar c)

/-- Adds an escaped unit of UTF-16: two halves of a surrogate pair make one character. -/
def pushUnit (s : TextScan) (u : Nat) : TextScan :=
  if 0xD800 ≤ u ∧ u < 0xDC00 then
    -- A first half after another one leaves the earlier one alone.
    { s with high := some u, broken := s.broken || s.high.isSome }
  else if 0xDC00 ≤ u ∧ u < 0xE000 then
    match s.high with
    | some h =>
      { s with high := none }.pushChar (Char.ofNat (0x10000 + (h - 0xD800) * 0x400 + (u - 0xDC00)))
    | none => { s with broken := true }
  else s.pushChar (Char.ofNat u)

/-- The contents at the closing quote, if they are a text. -/
def contents (s : TextScan) : Option String :=
  if s.broken || s.high.isSome then none else Text.ofBytes? s.reversed.reverse

end TextScan

/-- Reads the rest of a text after its opening quote: the contents and what follows the closing
quote. Control characters and unknown escapes are refused. -/
def takeText? (s : TextScan) : List UInt8 → Option (Option String × List UInt8)
  | [] => none
  | 34 :: rest => some (s.contents, rest)
  -- The letter u and four digits, before the escapes of one letter.
  | 92 :: 117 :: a :: b :: c :: d :: rest =>
    match hexUnit? a b c d with
    | some u => takeText? (s.pushUnit u) rest
    | none => none
  | 92 :: e :: rest =>
    match escaped? e with
    | some c => takeText? (s.pushChar c) rest
    | none => none
  | b :: rest => if b < 32 ∨ b = 92 then none else takeText? (s.push [b]) rest

/-! ### Tokens -/

/-- Reads one token at the start of the bytes. -/
def takeToken? : List UInt8 → Option (Token × List UInt8)
  | 91 :: rest => some (.leftBracket, rest)
  | 93 :: rest => some (.rightBracket, rest)
  | 123 :: rest => some (.leftBrace, rest)
  | 125 :: rest => some (.rightBrace, rest)
  | 44 :: rest => some (.comma, rest)
  | 58 :: rest => some (.colon, rest)
  | 34 :: rest => (takeText? {} rest).map fun (t, r) => (.text t, r)
  -- The words null, true and false. What follows them is not looked at: it has to be a token
  -- itself.
  | 110 :: 117 :: 108 :: 108 :: rest => some (.null, rest)
  | 116 :: 114 :: 117 :: 101 :: rest => some (.bool true, rest)
  | 102 :: 97 :: 108 :: 115 :: 101 :: rest => some (.bool false, rest)
  | bs => (takeNumber? bs).map fun (n, r) => (.number n, r)

/-- The tokens of a text, with at most `fuel` of them. -/
def lexWithin : Nat → List UInt8 → Option (List Token)
  | fuel, bs =>
    match fuel, bs.dropWhile isSpace with
    | _, [] => some []
    | 0, _ :: _ => none
    | fuel + 1, b :: rest =>
      match takeToken? (b :: rest) with
      | some (t, rest) => (lexWithin fuel rest).map (t :: ·)
      | none => none

/-- The tokens of a text, or `none` if a part of it is no token. Each token takes a byte, so there
are at most as many as bytes. -/
def lex (bs : List UInt8) : Option (List Token) := lexWithin bs.length bs

end CommandMesh.Json
