import CommandMesh.Json.Lexer
import CommandMesh.Json.Printer
import Mathlib.Data.List.Chain

/-!
# `CommandMesh.Proofs.Json.Spelling`: how tokens may be written

The grammar of JSON, apart from any reader: how numbers and texts may be spelt, and that white space
may stand between tokens. `Spells ts bs` says that the bytes `bs` are a spelling of the tokens `ts`.
It is the other side of the theorems about the lexer, which is why it is made of relations that
mention no function of the lexer: `IsNumber` follows the grammar of numbers part by part, `Quotes`
what may stand between two quotes, and `Token.SpeltAs` the tokens, of which only numbers and texts
have more than one spelling.

A token keeps a number as it is spelt, so that two spellings of one number are two tokens. A text is
kept by its contents. `Quotes` leads from what was read of a text to more of it, because an escaped
unit of UTF-16 means something only together with the one before it: two halves of a surrogate pair
are one character, and a half by itself makes the contents no text (`none`), although the quotes are
in their places.

What is written here is spelt in one way only: of the numbers only integers are written, and of the
texts only those that are Unicode (`Token.Written`). That covers all that the typed layouts write,
whose numbers are words and signed integers.

The theorems:

* `integer?_spell`: the spelling of an integer names that integer.
* `isNumber_spell`, `quotes_quoted`, `Token.Written.speltAs`: what is written follows the grammar.
* `spells_flatMap_bytes`: written tokens in a row are a spelling of them.
* `endsNumber_of_spells`: a number ends before every other token, with or without a space.
-/

set_option autoImplicit false

namespace CommandMesh.Json

/-! ### Integers -/

/-- A decimal digit as a byte. -/
def digitByte (d : Nat) : UInt8 := ascii (Nat.digitChar d)

/-- The digits are the bytes from 48 on. -/
theorem toNat_digitByte : ∀ d : Fin 10, (digitByte d).toNat = 48 + d.val := by decide

/-- The byte of a digit is one. -/
theorem isDigit_digitByte : ∀ d : Fin 10, isDigit (digitByte d) = true := by decide

/-- A number below ten has one digit. -/
theorem digits_of_lt {n : Nat} (h : n < 10) : digits n = [digitByte n] := by
  rw [digits, Nat.toDigits_of_lt_base h]
  rfl

/-- From ten on, a number has the digits of its tenth and one more. -/
theorem digits_of_le {n : Nat} (h : 10 ≤ n) :
    digits n = digits (n / 10) ++ [digitByte (n % 10)] := by
  rw [digits, Nat.toDigits_of_base_le (by decide) h, List.map_append]
  rfl

/-- Every number has a digit, zero included. -/
theorem digits_ne_nil (n : Nat) : digits n ≠ [] := by simp [digits]

/-- The digits of a number are nothing but digits. -/
theorem all_isDigit_digits (n : Nat) : (digits n).all isDigit = true := by
  -- The digits are those of the tenth and one more, so the induction is on tenths.
  induction n using Nat.strongRecOn with
  | ind n ih =>
    by_cases h : n < 10
    · rw [digits_of_lt h]
      simpa using isDigit_digitByte ⟨n, h⟩
    · have hlow := isDigit_digitByte ⟨n % 10, Nat.mod_lt n (by decide)⟩
      rw [digits_of_le (by omega), List.all_append, ih (n / 10) (by omega)]
      simpa using hlow

/-- The digits of a number name it. -/
theorem digitsValue_digits (n : Nat) : digitsValue (digits n) = n := by
  induction n using Nat.strongRecOn with
  | ind n ih =>
    by_cases h : n < 10
    · have hdigit := toNat_digitByte ⟨n, h⟩
      rw [digits_of_lt h]
      show 10 * 0 + ((digitByte n).toNat - 48) = n
      rw [hdigit, Nat.add_sub_cancel_left, Nat.mul_zero, Nat.zero_add]
    · have hdigit := toNat_digitByte ⟨n % 10, Nat.mod_lt n (by decide)⟩
      have hhigh := ih (n / 10) (by omega)
      rw [digits_of_le (by omega), digitsValue, List.foldl_append]
      show 10 * digitsValue (digits (n / 10)) + ((digitByte (n % 10)).toNat - 48) = n
      rw [hhigh, hdigit, Nat.add_sub_cancel_left]
      exact Nat.div_add_mod n 10

/-- The first digit of a number is a zero only if the number is. -/
theorem head?_digits_ne_zero {n : Nat} (h : n ≠ 0) : (digits n).head? ≠ some 48 := by
  induction n using Nat.strongRecOn with
  | ind n ih =>
    by_cases hlt : n < 10
    · have hdigit := toNat_digitByte ⟨n, hlt⟩
      rw [digits_of_lt hlt, List.head?_cons]
      intro heq
      rw [Option.some.inj heq] at hdigit
      have hzero : 48 = 48 + n := hdigit
      omega
    · -- The first digit is that of the tenth, which is not zero either.
      rw [digits_of_le (by omega), List.head?_append_of_ne_nil _ (digits_ne_nil _)]
      exact ih (n / 10) (by omega) (by omega)

/-- The spelling of an integer names that integer. -/
theorem integer?_spell (i : Int) : integer? (spell i) = some i := by
  cases i with
  | ofNat n =>
    have hall := all_isDigit_digits n
    have hvalue := digitsValue_digits n
    rw [show spell (Int.ofNat n) = digits n from rfl]
    cases hd : digits n with
    | nil => exact absurd hd (digits_ne_nil n)
    | cons b bs =>
      rw [hd] at hall hvalue
      -- A minus sign is no digit.
      have hsign : b ≠ ascii '-' := by
        rintro rfl
        simp [isDigit, ascii] at hall
      simp only [integer?, if_neg hsign, hall, hvalue, if_true]
      rfl
  | negSucc n =>
    have hall := all_isDigit_digits (n + 1)
    have hvalue := digitsValue_digits (n + 1)
    rw [show spell (Int.negSucc n) = ascii '-' :: digits (n + 1) from rfl]
    simp only [integer?, if_true, hall, hvalue]
    rw [if_pos ⟨digits_ne_nil _, trivial, by omega⟩]
    rfl

/-! ### Numbers -/

/-- A row of digits, of which there is one at least. -/
def IsDigits (ds : List UInt8) : Prop := ds ≠ [] ∧ ds.all isDigit = true

/-- The whole part of a number: digits, of which the first is a zero only if it is the only one. -/
def IsWhole (ds : List UInt8) : Prop := ds = [48] ∨ IsDigits ds ∧ ds.head? ≠ some 48

/-- Nothing, or a point and digits. -/
def IsFraction (bs : List UInt8) : Prop := bs = [] ∨ ∃ ds, IsDigits ds ∧ bs = 46 :: ds

/-- Nothing, or an exponent mark, a sign if there is one, and digits. -/
def IsExponent (bs : List UInt8) : Prop :=
  bs = [] ∨ ∃ mark sign ds, (mark = 101 ∨ mark = 69) ∧ (sign = [] ∨ sign = [43] ∨ sign = [45]) ∧
    IsDigits ds ∧ bs = mark :: (sign ++ ds)

/-- A number: a minus sign if there is one, a whole part, a fraction and an exponent. -/
inductive IsNumber : List UInt8 → Prop where
  | parts {sign whole fraction exponent : List UInt8} : sign = [] ∨ sign = [45] → IsWhole whole →
      IsFraction fraction → IsExponent exponent → IsNumber (sign ++ (whole ++ fraction ++ exponent))

/-- The digits of a number are a whole part, with no zero in front. -/
theorem isWhole_digits (n : Nat) : IsWhole (digits n) := by
  by_cases hzero : n = 0
  · exact Or.inl (by rw [hzero]; rfl)
  · exact Or.inr ⟨⟨digits_ne_nil n, all_isDigit_digits n⟩, head?_digits_ne_zero hzero⟩

/-- An integer is spelt as a number without a fraction and an exponent. -/
theorem isNumber_spell (i : Int) : IsNumber (spell i) := by
  have hnumber (sign : List UInt8) (hsign : sign = [] ∨ sign = [45]) (n : Nat) :
      IsNumber (sign ++ digits n) := by
    have hparts := IsNumber.parts hsign (isWhole_digits n) (Or.inl rfl) (Or.inl rfl)
    rwa [List.append_nil, List.append_nil] at hparts
  -- The two kinds of integers differ in the sign alone.
  cases i with
  | ofNat n => exact hnumber [] (Or.inl rfl) n
  | negSucc n => exact hnumber [45] (Or.inr rfl) (n + 1)

/-- A number starts with a minus sign or a digit. -/
theorem IsNumber.head {n : List UInt8} (h : IsNumber n) :
    ∃ b bs, n = b :: bs ∧ (b = 45 ∨ isDigit b = true) := by
  cases h with
  | @parts sign whole fraction exponent hsign hwhole _ _ =>
    rcases hsign with rfl | rfl
    · rcases hwhole with rfl | ⟨⟨hne, hall⟩, -⟩
      · exact ⟨48, _, rfl, Or.inr rfl⟩
      · obtain ⟨d, ds, rfl⟩ := List.exists_cons_of_ne_nil hne
        exact ⟨d, _, rfl, Or.inr (Bool.and_eq_true_iff.mp hall).1⟩
    · exact ⟨45, _, rfl, Or.inl rfl⟩

/-- Whether a number may go on with this byte. -/
def continuesNumber (b : UInt8) : Bool := isDigit b || b = 46 || b = 101 || b = 69

/-- The bytes do not go on with one of that kind. -/
def Stops (kind : UInt8 → Bool) (bs : List UInt8) : Prop := ∀ b ∈ bs.head?, kind b = false

/-- Where no byte is left, nothing goes on. -/
theorem stops_nil (kind : UInt8 → Bool) : Stops kind [] := fun _ hb => absurd hb (by simp)

/-- Bytes go on with a kind exactly if the first one is of it. -/
theorem stops_cons {kind : UInt8 → Bool} {b : UInt8} {bs : List UInt8} :
    Stops kind (b :: bs) ↔ kind b = false := by
  simp [Stops]

/-- No number goes on at the start of the bytes. -/
abbrev EndsNumber (bs : List UInt8) : Prop := Stops continuesNumber bs

/-- A digit is no white space. -/
theorem not_isSpace_of_isDigit {b : UInt8} (h : isDigit b = true) : isSpace b = false := by
  simp only [isDigit, Bool.and_eq_true, decide_eq_true_eq, UInt8.le_iff_toNat_le] at h
  simp only [isSpace, Bool.or_eq_false_iff, decide_eq_false_iff_not, UInt8.ext_iff]
  have hlow : 48 ≤ b.toNat := h.1
  refine ⟨⟨⟨?_, ?_⟩, ?_⟩, ?_⟩ <;> intro heq <;> rw [heq] at hlow <;> exact absurd hlow (by decide)

/-- No number goes on with white space. -/
theorem not_continuesNumber_of_isSpace {b : UInt8} (h : isSpace b = true) :
    continuesNumber b = false := by
  simp only [isSpace, Bool.or_eq_true, decide_eq_true_eq] at h
  rcases h with ((rfl | rfl) | rfl) | rfl <;> decide

/-! ### Texts -/

/-- The bytes between quotes lead from what was read of a text to more of it. A byte stands for
itself unless it is a control, a quote or a backslash; a backslash starts a character by its letter
or a unit of UTF-16 by its number. -/
inductive Quotes : TextScan → List UInt8 → TextScan → Prop where
  | nil {s : TextScan} : Quotes s [] s
  | plain {s t : TextScan} {b : UInt8} {bs : List UInt8} : ¬ b < 32 → b ≠ 34 → b ≠ 92 →
      Quotes (s.push [b]) bs t → Quotes s (b :: bs) t
  | letter {s t : TextScan} {b : UInt8} {c : Char} {bs : List UInt8} : escaped? b = some c →
      Quotes (s.pushChar c) bs t → Quotes s (92 :: b :: bs) t
  | unit {s t : TextScan} {a b c d : UInt8} {u : Nat} {bs : List UInt8} :
      hexUnit? a b c d = some u → Quotes (s.pushUnit u) bs t →
      Quotes s (92 :: 117 :: a :: b :: c :: d :: bs) t

namespace TextScan

/-- A scan in which no half of a surrogate pair stands. -/
def Whole (s : TextScan) : Prop := s.high = none ∧ s.broken = false

/-- Bytes that are added to a text leave no half of a surrogate pair behind. -/
theorem whole_push {s : TextScan} (h : s.Whole) (bs : List UInt8) : (s.push bs).Whole := by
  obtain ⟨hhigh, hbroken⟩ := h
  simp [Whole, push, hhigh, hbroken]

end TextScan

/-- A control character is one byte, and four hexadecimal digits name it. -/
theorem control_byte : ∀ n : Fin 32,
    hexUnit? 48 48 (hexDigit (n / 16)) (hexDigit (n % 16)) = some n.val ∧
      String.utf8EncodeChar (Char.ofNat n) = [UInt8.ofNat n] := by decide

/-- A control character by number stands for its byte. -/
theorem quotes_control {s t : TextScan} {b : UInt8} {bs : List UInt8} (h : b < 32)
    (hbs : Quotes (s.push [b]) bs t) :
    Quotes s (92 :: 117 :: 48 :: 48 :: hexDigit (b.toNat / 16) :: hexDigit (b.toNat % 16) :: bs)
      t := by
  have hlt : b.toNat < 32 := h
  obtain ⟨hunit, hchar⟩ := control_byte ⟨b.toNat, hlt⟩
  -- Such a unit is far below the surrogates, so it is a character by itself, of one byte.
  have hpush : s.pushUnit b.toNat = s.push [b] := by
    rw [TextScan.pushUnit, if_neg (by omega), if_neg (by omega), TextScan.pushChar, hchar,
      UInt8.ofNat_toNat]
  exact .unit hunit (hpush ▸ hbs)

/-- Each byte of a text may be written as it is. -/
theorem quotes_quotedByte {s t : TextScan} {b : UInt8} {bs : List UInt8}
    (hbs : Quotes (s.push [b]) bs t) : Quotes s (quotedByte b ++ bs) t := by
  unfold quotedByte
  -- The first seven bytes are written by a letter, the other controls by their number.
  split
  · next h => subst h; exact .letter rfl hbs
  split
  · next h => subst h; exact .letter rfl hbs
  split
  · next h => subst h; exact .letter rfl hbs
  split
  · next h => subst h; exact .letter rfl hbs
  split
  · next h => subst h; exact .letter rfl hbs
  split
  · next h => subst h; exact .letter rfl hbs
  split
  · next h => subst h; exact .letter rfl hbs
  split
  · next h => exact quotes_control h hbs
  next hquote hslash _ _ _ _ _ hcontrol => exact .plain hcontrol hquote hslash hbs

/-- The bytes of a text may be written as they are, and stand for the text. -/
theorem quotes_quoted {s : TextScan} (hs : s.Whole) (bs : List UInt8) :
    ∃ t, Quotes s (bs.flatMap quotedByte) t ∧
      t.contents = Text.ofBytes? (s.reversed.reverse ++ bs) := by
  induction bs generalizing s with
  | nil =>
    obtain ⟨hhigh, hbroken⟩ := hs
    exact ⟨s, .nil, by simp [TextScan.contents, hhigh, hbroken]⟩
  | cons b bs ih =>
    -- What is still to come is read after this byte, so the scan goes on from there.
    obtain ⟨t, hquotes, hcontents⟩ := ih (TextScan.whole_push hs [b])
    refine ⟨t, ?_, by rw [hcontents]; simp [TextScan.push]⟩
    rw [List.flatMap_cons]
    exact quotes_quotedByte hquotes

/-! ### Tokens -/

namespace Token

/-- Whether the token is a number. -/
def isNumber : Token → Bool
  | .number _ => true
  | _ => false

/-- The ways in which a token may be written: a text in many, and all others in one. -/
inductive SpeltAs : Token → List UInt8 → Prop where
  | leftBracket : SpeltAs .leftBracket [91]
  | rightBracket : SpeltAs .rightBracket [93]
  | leftBrace : SpeltAs .leftBrace [123]
  | rightBrace : SpeltAs .rightBrace [125]
  | comma : SpeltAs .comma [44]
  | colon : SpeltAs .colon [58]
  | null : SpeltAs .null [110, 117, 108, 108]
  | true : SpeltAs (.bool Bool.true) [116, 114, 117, 101]
  | false : SpeltAs (.bool Bool.false) [102, 97, 108, 115, 101]
  | number {n : List UInt8} : IsNumber n → SpeltAs (.number n) n
  | text {bs : List UInt8} {s : TextScan} : Quotes {} bs s →
      SpeltAs (.text s.contents) (34 :: (bs ++ [34]))

/-- A token has bytes and starts with no space. A token that is no number ends the number before
it. -/
theorem SpeltAs.head {t : Token} {bs : List UInt8} (h : t.SpeltAs bs) :
    ∃ b rest, bs = b :: rest ∧ isSpace b = Bool.false ∧
      (t.isNumber = Bool.false → continuesNumber b = Bool.false) := by
  cases h with
  | number hn =>
    obtain ⟨b, rest, hbytes, hb⟩ := hn.head
    refine ⟨b, rest, hbytes, ?_, by simp [isNumber]⟩
    rcases hb with rfl | hb
    · rfl
    · exact not_isSpace_of_isDigit hb
  | text _ => exact ⟨34, _, rfl, rfl, fun _ => by decide⟩
  | leftBracket | rightBracket | leftBrace | rightBrace | comma | colon | null | true | false =>
    exact ⟨_, _, rfl, rfl, fun _ => by decide⟩

/-- Whether the token is one that is written: of numbers only integers, and of texts only those that
are one. -/
def Written : Token → Prop
  | .number spelling => ∃ i, spelling = spell i
  | .text contents => contents.isSome
  | _ => True

/-- What is written follows the grammar. -/
theorem Written.speltAs {t : Token} (h : t.Written) : t.SpeltAs t.bytes := by
  cases t with
  | number spelling =>
    obtain ⟨i, rfl⟩ := h
    exact .number (isNumber_spell i)
  | text contents =>
    obtain ⟨s, rfl⟩ := Option.isSome_iff_exists.mp h
    obtain ⟨t, hquotes, hcontents⟩ := quotes_quoted (s := {}) ⟨rfl, rfl⟩ (Text.bytes s)
    -- The scan of the bytes of a text ends up with that text.
    have hspelt := SpeltAs.text hquotes
    rw [hcontents.trans (Text.ofBytes?_bytes s)] at hspelt
    exact hspelt
  | bool b =>
    cases b
    · exact .false
    · exact .true
  | leftBracket => exact .leftBracket
  | rightBracket => exact .rightBracket
  | leftBrace => exact .leftBrace
  | rightBrace => exact .rightBrace
  | comma => exact .comma
  | colon => exact .colon
  | null => exact .null

/-- Whether two tokens may stand side by side without a space. -/
def mayTouch (t t' : Token) : Bool := !(t.isNumber && t'.isNumber)

end Token

/-! ### Rows of tokens -/

/-- The bytes spell the tokens, with white space around and between them. -/
inductive Spells : List Token → List UInt8 → Prop where
  | done {space : List UInt8} : space.all isSpace = true → Spells [] space
  | token {t : Token} {ts : List Token} {space spelling bs : List UInt8} :
      space.all isSpace = true → t.SpeltAs spelling → Spells ts bs →
      Spells (t :: ts) (space ++ (spelling ++ bs))

/-- A number ends where white space or any other token follows it. -/
theorem endsNumber_of_spells {ts : List Token} {bs : List UInt8} (h : Spells ts bs)
    (hts : ∀ t ∈ ts.head?, t.isNumber = false) : EndsNumber bs := by
  -- White space ends a number, so it matters only what follows if there is none.
  have hspace {space rest : List UInt8} (hall : space.all isSpace = true)
      (hrest : EndsNumber rest) : EndsNumber (space ++ rest) := by
    cases space with
    | nil => exact hrest
    | cons b space =>
      have hb := (Bool.and_eq_true_iff.mp hall).1
      exact stops_cons.mpr (not_continuesNumber_of_isSpace hb)
  cases h with
  | done hall =>
    rw [← List.append_nil bs]
    exact hspace hall (stops_nil _)
  | token hall hspelt _ =>
    obtain ⟨b, rest, rfl, -, hb⟩ := hspelt.head
    exact hspace hall (stops_cons.mpr (hb (hts _ rfl)))

/-- Written tokens in a row are spelt by their bytes. -/
theorem spells_flatMap_bytes {ts : List Token} (hwritten : ∀ t ∈ ts, t.Written) :
    Spells ts (ts.flatMap Token.bytes) := by
  induction ts with
  | nil => exact .done rfl
  | cons t ts ih =>
    have hrest := ih fun t' ht' => hwritten t' (List.mem_cons_of_mem t ht')
    rw [List.flatMap_cons, ← List.nil_append (t.bytes ++ _)]
    exact .token rfl (hwritten t List.mem_cons_self).speltAs hrest

end CommandMesh.Json
