import CommandMesh.Proofs.Json.Spelling
import Mathlib.Data.List.TakeWhile

/-!
# `CommandMesh.Proofs.Json.Lexing`: every spelling of tokens is read as these tokens

The lexer takes as much as it can at a time and never goes back. So a part of a number is read back
if what follows does not go on with it: after the digits of the whole part no digit may come, after
the fraction neither a digit nor a point, after the exponent nothing that a number may hold. The
lemmas are stated for any rest that stops in this sense, and the rests of one part are made from the
next part (`stops_fraction`, `stops_exponent`). A text is read back whatever follows its closing
quote.

The only tokens that cannot stand side by side are two numbers: without a space between them they
are read as one number, or not at all. `lex_spells` therefore assumes that no two neighbours are
numbers, also where a space stands between them, which is more than is needed and is true of the
tokens of every value.

The lexer calls itself on what is left of the bytes and counts them as fuel. Every token takes a
byte at least, so that the number of the bytes is enough; `lexWithin_spells` is an induction over
the spelling in which the fuel is any number that is large enough.

The theorems:

* `takeNumber?_append`, `takeText?_quotes`, `takeToken?_append`: a number, a text and any token are
  read back from each of their spellings.
* `lex_spells`: a row of tokens is read back, unless two of them are numbers side by side.
-/

set_option autoImplicit false

namespace CommandMesh.Json

/-! ### Numbers -/

/-- All digits are taken, if no further one follows. -/
theorem takeDigits?_append {ds rest : List UInt8} (hds : IsDigits ds) (hrest : Stops isDigit rest) :
    takeDigits? (ds ++ rest) = some (ds, rest) := by
  obtain ⟨hne, hall⟩ := hds
  have hstop : rest.takeWhile isDigit = [] ∧ rest.dropWhile isDigit = rest := by
    cases rest with
    | nil => exact ⟨rfl, rfl⟩
    | cons b bs =>
      have hb : isDigit b = false := stops_cons.mp hrest
      exact ⟨List.takeWhile_cons_of_neg (by simp [hb]), List.dropWhile_cons_of_neg (by simp [hb])⟩
  have hdigits : ∀ b ∈ ds, isDigit b = true := List.all_eq_true.mp hall
  have htake : (ds ++ rest).takeWhile isDigit = ds := by
    rw [List.takeWhile_append_of_pos hdigits, hstop.1, List.append_nil]
  have hdrop : (ds ++ rest).dropWhile isDigit = rest := by
    rw [List.dropWhile_append_of_pos hdigits, hstop.2]
  rw [takeDigits?, htake, hdrop]
  cases ds with
  | nil => exact absurd rfl hne
  | cons d ds => rfl

/-- The whole part of a number is taken. -/
theorem takeWhole?_append {whole rest : List UInt8} (h : IsWhole whole)
    (hrest : Stops isDigit rest) : takeWhole? (whole ++ rest) = some (whole, rest) := by
  rcases h with rfl | ⟨hdigits, hzero⟩
  · -- A zero is taken by itself, whatever comes after it.
    rfl
  · have htake := takeDigits?_append hdigits hrest
    obtain ⟨d, ds, rfl⟩ := List.exists_cons_of_ne_nil hdigits.1
    have hd : d ≠ 48 := fun heq => hzero (by rw [heq]; rfl)
    unfold takeWhole?
    split
    · next heq => exact absurd (List.cons.inj heq).1 hd
    · exact htake

/-- Whether the fraction of a number may go on with this byte. -/
def continuesFraction (b : UInt8) : Bool := isDigit b || b = 46

/-- The fraction of a number is taken, also where there is none. -/
theorem takeFraction?_append {fraction rest : List UInt8} (h : IsFraction fraction)
    (hrest : Stops continuesFraction rest) :
    takeFraction? (fraction ++ rest) = some (fraction, rest) := by
  have hstop {b : UInt8} (hb : b ∈ rest.head?) : isDigit b = false ∧ b ≠ 46 := by
    simpa [continuesFraction] using hrest b hb
  rcases h with rfl | ⟨ds, hds, rfl⟩
  · rw [List.nil_append]
    -- Without a fraction the rest has to start with something else than a point.
    unfold takeFraction?
    split
    · exact absurd rfl (hstop rfl).2
    · rfl
  · show (takeDigits? (ds ++ rest)).map _ = _
    rw [takeDigits?_append hds fun b hb => (hstop hb).1]
    rfl

/-- The exponent of a number is taken, also where there is none. -/
theorem takeExponent?_append {exponent rest : List UInt8} (h : IsExponent exponent)
    (hrest : EndsNumber rest) : takeExponent? (exponent ++ rest) = some (exponent, rest) := by
  have hstop {b : UInt8} (hb : b ∈ rest.head?) : isDigit b = false ∧ ¬ (b = 101 ∨ b = 69) := by
    have hcontinues := hrest b hb
    simp only [continuesNumber, Bool.or_eq_false_iff, decide_eq_false_iff_not] at hcontinues
    obtain ⟨⟨⟨hdigit, -⟩, hlower⟩, hupper⟩ := hcontinues
    exact ⟨hdigit, fun hmark => hmark.elim hlower hupper⟩
  rcases h with rfl | ⟨mark, sign, ds, hmark, hsign, hds, rfl⟩
  · cases rest with
    | nil => rfl
    | cons b bs => simp only [List.nil_append, takeExponent?, if_neg (hstop rfl).2]
  · have htake := takeDigits?_append hds fun b hb => (hstop hb).1
    obtain ⟨d, ds, rfl⟩ := List.exists_cons_of_ne_nil hds.1
    have hd : isDigit d = true := (Bool.and_eq_true_iff.mp hds.2).1
    -- A digit is no sign, so where there is none the digits follow the mark.
    have hdsign : ¬ (d = 43 ∨ d = 45) := by
      rintro (rfl | rfl) <;> exact absurd hd (by decide)
    rw [List.cons_append] at htake
    rcases hsign with rfl | rfl | rfl
    · simp only [List.nil_append, List.cons_append, takeExponent?, if_pos hmark, if_neg hdsign,
        htake, Option.map_some]
    · simp only [List.cons_append, List.nil_append, takeExponent?, if_pos hmark, true_or, if_true,
        htake, Option.map_some]
    · simp only [List.cons_append, List.nil_append, takeExponent?, if_pos hmark, or_true, if_true,
        htake, Option.map_some]

/-- What may follow a number may follow its fraction, also with an exponent in between. -/
theorem stops_exponent {exponent rest : List UInt8} (h : IsExponent exponent)
    (hrest : EndsNumber rest) : Stops continuesFraction (exponent ++ rest) := by
  rcases h with rfl | ⟨mark, sign, ds, rfl | rfl, -, -, rfl⟩
  · intro b hb
    have hcontinues := hrest b hb
    simp only [continuesNumber, Bool.or_eq_false_iff] at hcontinues
    obtain ⟨⟨⟨hdigit, hpoint⟩, -⟩, -⟩ := hcontinues
    rw [continuesFraction, hdigit, hpoint]
    rfl
  · exact stops_cons.mpr (by decide)
  · exact stops_cons.mpr (by decide)

/-- What may follow a fraction may follow a whole part, also with a fraction in between. -/
theorem stops_fraction {fraction rest : List UInt8} (h : IsFraction fraction)
    (hrest : Stops continuesFraction rest) : Stops isDigit (fraction ++ rest) := by
  rcases h with rfl | ⟨ds, -, rfl⟩
  · exact fun b hb => (Bool.or_eq_false_iff.mp (hrest b hb)).1
  · exact stops_cons.mpr (by decide)

/-- A number without a sign is taken as a whole. -/
theorem takeUnsigned?_append {whole fraction exponent rest : List UInt8} (hwhole : IsWhole whole)
    (hfraction : IsFraction fraction) (hexponent : IsExponent exponent) (hrest : EndsNumber rest) :
    takeUnsigned? (whole ++ fraction ++ exponent ++ rest) =
      some (whole ++ fraction ++ exponent, rest) := by
  have hafter := stops_exponent hexponent hrest
  simp only [takeUnsigned?, List.append_assoc, takeWhole?_append hwhole
    (stops_fraction hfraction hafter), takeFraction?_append hfraction hafter,
    takeExponent?_append hexponent hrest, Option.bind_eq_bind, Option.bind_some]

/-- A number is taken as a whole. -/
theorem takeNumber?_append {n rest : List UInt8} (h : IsNumber n) (hrest : EndsNumber rest) :
    takeNumber? (n ++ rest) = some (n, rest) := by
  cases h with
  | @parts sign whole fraction exponent hsign hwhole hfraction hexponent =>
    have htake := takeUnsigned?_append hwhole hfraction hexponent hrest
    rcases hsign with rfl | rfl
    · obtain ⟨b, bs, hhead, hb⟩ : ∃ b bs, whole ++ fraction ++ exponent ++ rest = b :: bs ∧
          isDigit b = true := by
        rcases hwhole with rfl | ⟨⟨hne, hall⟩, -⟩
        · exact ⟨48, _, rfl, rfl⟩
        · obtain ⟨d, ds, rfl⟩ := List.exists_cons_of_ne_nil hne
          exact ⟨d, _, rfl, (Bool.and_eq_true_iff.mp hall).1⟩
      rw [List.nil_append]
      unfold takeNumber?
      split
      · next heq =>
        -- A minus sign is no digit.
        rw [hhead] at heq
        rw [(List.cons.inj heq).1] at hb
        exact absurd hb (by decide)
      · exact htake
    · show (takeUnsigned? (whole ++ fraction ++ exponent ++ rest)).map _ = _
      rw [htake]
      rfl

/-! ### Texts -/

/-- A text is read up to its closing quote, and what stands between its quotes is its contents. -/
theorem takeText?_quotes {s t : TextScan} {bs : List UInt8} (h : Quotes s bs t)
    (rest : List UInt8) : takeText? s (bs ++ 34 :: rest) = some (t.contents, rest) := by
  -- The induction is on the bytes between the quotes, one character at a time.
  induction h with
  | nil => rw [List.nil_append, takeText?]
  | plain hcontrol hquote hslash _ ih =>
    rw [List.cons_append, takeText?.eq_5, if_neg (by simp [hcontrol, hslash])]
    · exact ih
    all_goals simp_all
  | letter hletter _ ih =>
    rw [List.cons_append, List.cons_append, takeText?.eq_4, hletter]
    · exact ih
    · -- The letter of a unit stands for no character.
      rintro a b c d rest' rfl
      simp [escaped?] at hletter
  | unit hunit _ ih =>
    simp only [List.cons_append]
    rw [takeText?, hunit]
    exact ih

/-! ### Tokens -/

/-- What starts like a number is read as one. -/
theorem takeToken?_of_number {b : UInt8} {bs : List UInt8} (h : b = 45 ∨ isDigit b = true) :
    takeToken? (b :: bs) = (takeNumber? (b :: bs)).map fun (n, r) => (.number n, r) := by
  unfold takeToken?
  split
  case h_11 => rfl
  -- Every other case starts with a byte of its own.
  all_goals
    next heq =>
      obtain ⟨rfl, -⟩ := List.cons.inj heq
      exact absurd h (by decide)

/-- A token is read back, whatever follows it. After a number, no more of it may follow. -/
theorem takeToken?_append {t : Token} {spelling rest : List UInt8} (h : t.SpeltAs spelling)
    (hrest : t.isNumber = true → EndsNumber rest) :
    takeToken? (spelling ++ rest) = some (t, rest) := by
  cases h with
  | number hn =>
    have htake := takeNumber?_append hn (hrest rfl)
    obtain ⟨b, bs, rfl, hb⟩ := hn.head
    rw [List.cons_append] at htake ⊢
    rw [takeToken?_of_number hb, htake]
    rfl
  | text hquotes =>
    rw [List.cons_append, List.append_assoc, List.singleton_append]
    show (takeText? {} _).map _ = _
    rw [takeText?_quotes hquotes]
    rfl
  | leftBracket | rightBracket | leftBrace | rightBrace | comma | colon | null | true | false => rfl

/-! ### Rows of tokens -/

/-- Every spelling of tokens is read as these tokens, with fuel for each of its bytes. -/
theorem lexWithin_spells {ts : List Token} {bs : List UInt8} (h : Spells ts bs)
    (htouch : ts.IsChain fun t t' => t.mayTouch t') {fuel : Nat} (hfuel : bs.length ≤ fuel) :
    lexWithin fuel bs = some ts := by
  induction h generalizing fuel with
  | done hspace =>
    have hnone := List.dropWhile_eq_nil_iff.mpr (List.all_eq_true.mp hspace)
    unfold lexWithin
    rw [hnone]
  | @token t ts space spelling bs hspace hspelt hrest ih =>
    -- The token after a number is no number, and so it ends that number.
    have hends : t.isNumber = true → EndsNumber bs := by
      refine fun hnumber => endsNumber_of_spells hrest fun t' ht' => ?_
      have hnext := List.isChain_cons.mp htouch |>.1 t' ht'
      rwa [Token.mayTouch, hnumber, Bool.true_and, Bool.not_eq_true'] at hnext
    have htake := takeToken?_append hspelt hends
    obtain ⟨b, bs', rfl, hb, -⟩ := hspelt.head
    have hdrop : (space ++ (b :: bs' ++ bs)).dropWhile isSpace = b :: (bs' ++ bs) := by
      rw [List.dropWhile_append_of_pos (List.all_eq_true.mp hspace), List.cons_append,
        List.dropWhile_cons_of_neg (by simp [hb])]
    -- The token takes a byte at least, so the fuel lasts for the rest.
    have hlength : bs.length + 1 ≤ fuel := by
      rw [List.length_append, List.length_append, List.length_cons] at hfuel
      omega
    obtain ⟨fuel, rfl⟩ : ∃ k, fuel = k + 1 := ⟨fuel - 1, by omega⟩
    have hlex := ih htouch.tail (Nat.le_of_succ_le_succ hlength)
    rw [List.cons_append] at htake
    unfold lexWithin
    rw [hdrop]
    simp only [htake, hlex, Option.map_some]

/-- Every spelling of tokens is read as these tokens, if no two of them are numbers side by side. -/
theorem lex_spells {ts : List Token} {bs : List UInt8} (h : Spells ts bs)
    (htouch : ts.IsChain fun t t' => t.mayTouch t') : lex bs = some ts :=
  lexWithin_spells h htouch (Nat.le_refl _)

end CommandMesh.Json
