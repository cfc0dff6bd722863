import CommandMesh.Text.Ranges

/-!
# `CommandMesh.Text.Blank`: white space and trimming

`trim` removes the characters with the Unicode property White_Space from both ends of a text and
leaves the inside alone. The property has 25 members and not only the space and the controls of
ASCII: the no-break spaces and the ideographic space belong to it, the zero-width ones do not.

White space in JSON is another matter, four bytes and no more, and is defined with the lexer.
-/

set_option autoImplicit false

namespace CommandMesh.Text

/-- The property White_Space. -/
def blankRanges : List (Nat × Nat) :=
  [(9, 13), (32, 32), (133, 133), (160, 160), (5760, 5760), (8192, 8202), (8232, 8233),
   (8239, 8239), (8287, 8287), (12288, 12288)]

/-- Whether the character is white space. -/
def isBlank (c : Char) : Bool := covers blankRanges c.toNat

/-- The characters without leading white space. -/
def trimStart (cs : List Char) : List Char := cs.dropWhile isBlank

/-- The characters without trailing white space. -/
def trimEnd (cs : List Char) : List Char := (trimStart cs.reverse).reverse

/-- The characters without white space at either end. -/
def trimChars (cs : List Char) : List Char := trimEnd (trimStart cs)

/-- The text without white space at either end. -/
def trim (s : String) : String := String.ofList (trimChars s.toList)

example : trim "\t a b\u3000" = "a b" := by decide

end CommandMesh.Text
