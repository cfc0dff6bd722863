/-!
# `CommandMesh.Text.Masked`: texts without their random parts

Random identifiers make two runs of one mesh differ in every text that names one. `Text.masked` puts
marks in their place, numbered by first appearance, so that runs can be compared. An identifier is
recognised in lower and in upper case, and has one number in both.

An identifier has 36 characters: 32 hexadecimal digits, all of one case, in five groups with hyphens
between them, the digit of the version and a digit of the variant among them. A text that a host
chose to look like one is masked too. The search goes from left to right and an identifier that was
found is passed over as a whole, so marks never overlap.
-/

set_option autoImplicit false

namespace CommandMesh.Text

/-- How many characters an identifier has. -/
def identifierLength : Nat := 36

/-- Whether a character is a hexadecimal digit below ten or a letter of that case. -/
def isDigitOfCase (upper : Bool) (c : Char) : Bool :=
  c.isDigit || if upper then 'A' ≤ c && c ≤ 'F' else 'a' ≤ c && c ≤ 'f'

/-- Whether a character may stand at a position of a random identifier: hyphens divide it into five
groups, the third group begins with the version and the fourth with the variant. -/
def fitsIdentifier (upper : Bool) (c : Char) (position : Nat) : Bool :=
  if position ∈ [8, 13, 18, 23] then c == '-'
  else if position = 14 then c == '4'
  else if position = 19 then isDigitOfCase upper c && "89abAB".contains c
  else isDigitOfCase upper c

/-- Whether characters are an identifier with letters of that case. -/
def isIdentifier (upper : Bool) (cs : List Char) : Bool :=
  cs.length == identifierLength && cs.zipIdx.all fun (c, i) => fitsIdentifier upper c i

/-- The number of an identifier in order of appearance, and the identifiers seen so far. -/
def numberOf (seen : List String) (id : String) : Nat × List String :=
  match seen.idxOf? id with
  | some i => (i + 1, seen)
  | none => (seen.length + 1, seen ++ [id])

/-- The mark that stands for the identifier with that number. -/
def mark (upper : Bool) (number : Nat) : String :=
  (if upper then "<U" else "<u") ++ Nat.repr number ++ ">"

/-- The mark of the identifier that characters begin with, if they do, and the identifiers seen so
far. -/
def leadingMark? (seen : List String) (cs : List Char) : Option (String × List String) :=
  let word := cs.take identifierLength
  let lower := isIdentifier false word
  if lower || isIdentifier true word then
    let (number, seen) := numberOf seen (String.ofList (word.map Char.toLower))
    some (mark (!lower) number, seen)
  else none

/-- Characters with marks for identifiers. The first `skip` of them belong to one that was already
marked. -/
def maskedFrom (seen : List String) (skip : Nat) (acc : List Char) : List Char → List Char
  | [] => acc.reverse
  | c :: rest =>
    match skip with
    | skip + 1 => maskedFrom seen skip acc rest
    | 0 =>
      match leadingMark? seen (c :: rest) with
      -- The rest of the identifier is left out.
      | some (m, seen) => maskedFrom seen (identifierLength - 1) (m.toList.reverse ++ acc) rest
      | none => maskedFrom seen 0 (c :: acc) rest

/-- A text with marks for identifiers. -/
def masked (s : String) : String := String.ofList (maskedFrom [] 0 [] s.toList)

end CommandMesh.Text
