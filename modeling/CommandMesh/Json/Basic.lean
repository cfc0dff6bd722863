import CommandMesh.Text.Utf8

/-!
# `CommandMesh.Json.Basic`: JSON values and tokens

A `Json` value keeps its numbers as they are spelled and the members of its objects in their order,
repeated names included. The grammar of JSON allows all of that, and only a reader that knows the
type it wants can tell whether a spelling is a number of that type, or what a repeated name is to
mean. `Wire.ofJson?` decides both.

A text is `none` when its quotes are in place but its contents are no Unicode text, that is, when it
holds half a surrogate pair or bytes that are not UTF-8. Such a text may be passed over, as the
value of a member that nobody asks for, but not read.

Numbers are read as integers and nothing else: the library sends no fractions, and `integer?`
refuses a spelling with a point or an exponent even where its value is whole. `Proofs.Json.Spelling`
shows that `integer?` reads back what `spell` writes.
-/

set_option autoImplicit false

namespace CommandMesh

/-- A JSON value. -/
inductive Json where
  | null
  | bool (b : Bool)
  /-- A number by its spelling. -/
  | number (spelling : List UInt8)
  /-- A text, or `none` if it holds half a surrogate pair or bytes that are not UTF-8. -/
  | text (contents : Option String)
  | array (items : List Json)
  /-- Members in their order. -/
  | object (members : List (Option String × Json))

/-- A JSON token. White space stands between tokens and is none itself. -/
inductive Json.Token where
  | leftBracket
  | rightBracket
  | leftBrace
  | rightBrace
  | comma
  | colon
  | null
  | bool (b : Bool)
  | number (spelling : List UInt8)
  | text (contents : Option String)
deriving DecidableEq

namespace Json

/-- A JSON text with these contents. -/
abbrev str (s : String) : Json := .text (some s)

/-- A member with a readable name. -/
abbrev member (name : String) (v : Json) : Option String × Json := (some name, v)

/-- The byte of a character below 128. -/
def ascii (c : Char) : UInt8 := c.toNat.toUInt8

/-! ### Numbers -/

/-- The decimal digits of `n`, as bytes. -/
def digits (n : Nat) : List UInt8 := (Nat.toDigits 10 n).map ascii

/-- The spelling of an integer. -/
def spell (i : Int) : List UInt8 :=
  match i with
  | .ofNat n => digits n
  | .negSucc n => ascii '-' :: digits (n + 1)

/-- The JSON number of an integer. -/
def ofInt (i : Int) : Json := .number (spell i)

/-- The JSON number of a natural number. -/
def ofNat (n : Nat) : Json := .number (digits n)

/-- Whether the byte is a decimal digit. -/
def isDigit (b : UInt8) : Bool := 48 ≤ b && b ≤ 57

/-- The number that a row of decimal digits names. -/
def digitsValue (bs : List UInt8) : Nat :=
  bs.foldl (fun n b => 10 * n + (b.toNat - 48)) 0

/-- The integer that a spelling names: digits, with a minus sign if it is below zero. A fraction,
an exponent or a minus sign before zero make the number none. -/
def integer? : List UInt8 → Option Int
  | [] => none
  | b :: bs =>
    if b = ascii '-' then
      -- A minus sign before zero spells a number that is not an integer, so it is refused with the
      -- fractions.
      if bs ≠ [] ∧ bs.all isDigit ∧ digitsValue bs ≠ 0 then some (-(digitsValue bs : Int)) else none
    else if (b :: bs).all isDigit then some (digitsValue (b :: bs) : Int)
    else none

/-! ### Looking into a value -/

/-- The members of an object whose name is `name`, in their order. -/
def membersNamed (name : String) (ms : List (Option String × Json)) : List Json :=
  ms.filterMap fun m => if m.1 = some name then some m.2 else none

/-- The last member of that name, if the value is an object that has one. -/
def get? (name : String) : Json → Option Json
  | .object ms => (membersNamed name ms).getLast?
  | _ => none

end Json

end CommandMesh
