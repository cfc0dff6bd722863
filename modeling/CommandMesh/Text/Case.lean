import CommandMesh.Text.Blank
import CommandMesh.Text.Case.Table

/-!
# `CommandMesh.Text.Case`: full case mapping and normal forms

`lower` and `upper` are the full mappings of Unicode: one character may become several, and a
capital sigma that ends a word becomes a final sigma. `routingForm` and `correlationForm` are the
two normal forms that the mesh compares texts by. No language has rules of its own here.

The mapping to capitals goes character by character. The mapping to small letters needs both sides
of a sigma, so `lowerFrom` carries the characters before it, which are the original ones and not
their images: whether a letter has case is asked of the text that was given.

That both normal forms are final, so that a text which was normalised once is left alone from then
on, is not a matter of course. The small form of a letter might have another small form, and
trimming comes before the mapping, which might put white space at an end. `Proofs.Text.NormalForm`
excludes both for the tables of this version of Unicode.
-/

set_option autoImplicit false

namespace CommandMesh.Text

/-- Whether the run maps the code point `n`. -/
def CaseRun.maps (r : CaseRun) (n : Nat) : Bool :=
  r.first ≤ n && (n - r.first) % r.step == 0 && (n - r.first) / r.step < r.count

/-- The image of `n` under the first run that maps it. The runs ascend by their first code point. -/
def runImage : List CaseRun → Nat → Nat
  | [], n => n
  | r :: rest, n =>
    if n < r.first then n
    -- A run may start before `n` and pass over it, with its stride. A later run may then map it.
    else if r.maps n then (n + r.shift).toNat
    else runImage rest n

/-- The image of a character: its expansion if it has one, else its image under the runs. -/
def mapChar (expansions : List (Nat × List Nat)) (runs : List CaseRun) (c : Char) : List Char :=
  match expansions.lookup c.toNat with
  | some image => image.map Char.ofNat
  | none => [Char.ofNat (runImage runs c.toNat)]

/-- The small form of one character, out of context. -/
def lowerChar (c : Char) : List Char := mapChar lowerExpansions lowerRuns c

/-- The capital form of one character. -/
def upperChar (c : Char) : List Char := mapChar upperExpansions upperRuns c

/-- Whether the character has case. -/
def isCased (c : Char) : Bool := covers casedRanges c.toNat

/-- Whether the character is passed over when looking for a neighbour with case. -/
def isCaseIgnorable (c : Char) : Bool := covers caseIgnorableRanges c.toNat

/-- Whether the next character that counts has case. -/
def meetsCased (cs : List Char) : Bool :=
  match cs.dropWhile isCaseIgnorable with
  | c :: _ => isCased c
  | [] => false

/-- The small form of a text whose part `before`, last character first, has been mapped already.
A capital sigma is final when a cased character comes before it and none comes after. -/
def lowerFrom (before : List Char) : List Char → List Char
  | [] => []
  | c :: rest =>
    -- The sigma is the one letter whose small form depends on its place.
    (if c = 'Σ' then [if meetsCased before && !meetsCased rest then 'ς' else 'σ'] else lowerChar c)
      ++ lowerFrom (c :: before) rest

/-- The text in small letters. -/
def lower (s : String) : String := String.ofList (lowerFrom [] s.toList)

/-- The text in capital letters. -/
def upper (s : String) : String := String.ofList (s.toList.flatMap upperChar)

/-- The form in which channels, kinds and actions are compared. -/
def routingForm (s : String) : String := lower (trim s)

/-- The form in which correlation ids are compared. -/
def correlationForm (s : String) : String := upper (trim s)

/-- Whether two texts agree when the letters a to z are read without regard to case. -/
def eqIgnoringAsciiCase (s t : String) : Bool :=
  s.toList.map Char.toLower == t.toList.map Char.toLower

end CommandMesh.Text
