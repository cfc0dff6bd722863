import CommandMesh.Text.Case
import Mathlib.Data.List.Forall2
import Mathlib.Data.List.TakeWhile

/-!
# `CommandMesh.Proofs.Text.NormalForm`: normal forms are normal

A correlation id is put into normal form wherever it is looked up, so an id that was taken from a
list of normal forms is put into normal form again. The same goes for the texts of a routing
pattern. For ids the form is trimmed and in capital letters, for routing it is trimmed and in small
letters, both by the full case mappings of Unicode, in which a character may become several and a
capital sigma becomes one of two letters by its context.

That a form is its own form is no property of case mappings as such; it is one of the tables, and
the tables are data. One property carries both forms, `Settled`: what the image of a character is
made of is not mapped any further and is no white space. So mapping a text twice is mapping it once,
and it has white space at an end only if the text had (`Trimmed.flatten`). It is checked by
computation, once for each table. Comparing some fifteen hundred code points pair by pair would be
too much, which is why sets of code points are written as binary numbers here, whose common digits
one operation tells.

A capital sigma is mapped by its context, but never to a capital sigma, so no context counts the
second time; the proof for small letters therefore follows the text with what came before it, and
shows that each character of the result is left alone in every context (`IsSmall`).

No text is excluded. What is assumed is that the tables here are those of the Unicode version in
use; a version with other tables needs the check again, and nothing else changes.

The theorems:

* `Trimmed.trimChars_eq`, `Trimmed.flatten`: trimming and mapping do not get in each other's way.
* `Settled.mapChar_of_mem`: every character of an image is its own image.
* `correlationForm_correlationForm`, `routingForm_routingForm`: taking the form again changes
  nothing.
* `correlationForm_ne_empty`: an id that is not blank is not lost.
-/

set_option autoImplicit false

namespace CommandMesh.Text

/-! ### Trimming -/

/-- A text that has no white space at either end. -/
structure Trimmed (cs : List Char) : Prop where
  head : ∀ c, cs.head? = some c → isBlank c = false
  last : ∀ c, cs.getLast? = some c → isBlank c = false

/-- What is left of a text without its leading white space does not begin with white space. -/
theorem isBlank_head_trimStart (cs : List Char) (c : Char)
    (h : (trimStart cs).head? = some c) : isBlank c = false := by
  have hnot := List.head?_dropWhile_not isBlank cs
  rw [show (cs.dropWhile isBlank).head? = some c from h] at hnot
  exact hnot

/-- A text begins as it did after its trailing white space is removed, unless nothing is left. -/
theorem trimEnd_isPrefix (cs : List Char) : trimEnd cs <+: cs := by
  have hsuffix : trimStart cs.reverse <:+ cs.reverse := List.dropWhile_suffix _
  rw [← List.reverse_prefix, List.reverse_reverse] at hsuffix
  exact hsuffix

/-- Trimming removes all white space at the ends. -/
theorem trimmed_trimChars (cs : List Char) : Trimmed (trimChars cs) where
  head := by
    intro c hc
    obtain ⟨rest, hrest⟩ := trimEnd_isPrefix (trimStart cs)
    refine isBlank_head_trimStart cs c ?_
    rw [← hrest, List.head?_append]
    simp [show (trimEnd (trimStart cs)).head? = some c from hc]
  last := by
    intro c hc
    refine isBlank_head_trimStart (trimStart cs).reverse c ?_
    rw [← hc, show trimChars cs = (trimStart (trimStart cs).reverse).reverse from rfl,
      List.getLast?_reverse]

/-- Nothing is removed at the front of a text that does not begin with white space. -/
theorem trimStart_eq_self {cs : List Char} (h : ∀ c, cs.head? = some c → isBlank c = false) :
    trimStart cs = cs := by
  cases cs with
  | nil => rfl
  | cons c rest => exact List.dropWhile_cons_of_neg (by simp [h c rfl])

/-- Trimming leaves a trimmed text alone. -/
theorem Trimmed.trimChars_eq {cs : List Char} (h : Trimmed cs) : trimChars cs = cs := by
  have hlast : trimStart cs.reverse = cs.reverse :=
    trimStart_eq_self fun c hc => h.last c (by rwa [List.head?_reverse] at hc)
  unfold trimChars trimEnd
  rw [trimStart_eq_self h.head, hlast, List.reverse_reverse]

/-! ### Sets of code points as binary numbers

The case tables map some fifteen hundred code points. That none of them is also an image is too much
to compare pair by pair, so both sets are written as binary numbers, which share no digit. -/

/-- The number whose binary digits say which numbers are in the list. -/
def mask (ns : List Nat) : Nat := ns.foldr (fun n m => 1 <<< n ||| m) 0

/-- A digit of a mask is set if the number is in the list. -/
theorem testBit_mask_of_mem {ns : List Nat} {n : Nat} (h : n ∈ ns) :
    (mask ns).testBit n = true := by
  induction ns with
  | nil => simp at h
  | cons m ns ih =>
    show (1 <<< m ||| mask ns).testBit n = true
    rw [Nat.testBit_or]
    rcases List.mem_cons.mp h with rfl | h
    · simp
    · simp [ih h]

/-- Lists whose masks share no digit share no number. -/
theorem not_mem_of_mask {ns ms : List Nat} (h : mask ns &&& mask ms = 0) {n : Nat}
    (hn : n ∈ ns) : n ∉ ms := by
  intro hm
  -- A number in both lists would be a digit that both masks have.
  have hboth : (mask ns &&& mask ms).testBit n = true := by
    rw [Nat.testBit_and, testBit_mask_of_mem hn, testBit_mask_of_mem hm, Bool.and_self]
  simp [h] at hboth

/-- The numbers in some ranges. -/
def rangePoints (ranges : List (Nat × Nat)) : List Nat :=
  ranges.flatMap fun r => (List.range (r.2 + 1 - r.1)).map (r.1 + ·)

/-- A number that some ranges cover is one of the numbers in them. -/
theorem mem_rangePoints {ranges : List (Nat × Nat)} {n : Nat} (h : covers ranges n = true) :
    n ∈ rangePoints ranges := by
  induction ranges with
  | nil => simp [covers] at h
  | cons r rest ih =>
    obtain ⟨lo, hi⟩ := r
    rw [rangePoints, List.flatMap_cons, List.mem_append]
    unfold covers at h
    split at h
    · simp at h
    · rcases Bool.or_eq_true_iff.mp h with hle | hrest
      · have hle : n ≤ hi := of_decide_eq_true hle
        exact Or.inl (List.mem_map.mpr ⟨n - lo, List.mem_range.mpr (by omega), by omega⟩)
      · exact Or.inr (ih hrest)

/-! ### Case tables -/

/-- The code points that a run maps. -/
def CaseRun.points (r : CaseRun) : List Nat :=
  (List.range r.count).map fun k => r.first + r.step * k

/-- What a run maps its code points to. -/
def CaseRun.images (r : CaseRun) : List Nat :=
  r.points.map fun n : Nat => ((n : Int) + r.shift).toNat

/-- The code points that a case table maps. -/
def casePoints (expansions : List (Nat × List Nat)) (runs : List CaseRun) : List Nat :=
  expansions.map (·.1) ++ runs.flatMap CaseRun.points

/-- The code points that the images of a case table are made of. -/
def caseImages (expansions : List (Nat × List Nat)) (runs : List CaseRun) : List Nat :=
  expansions.flatMap (·.2) ++ runs.flatMap CaseRun.images

/-- A case table that need not be applied twice. -/
structure Settled (expansions : List (Nat × List Nat)) (runs : List CaseRun) : Prop where
  /-- No code point of an image is mapped itself or is white space. -/
  apart : mask (caseImages expansions runs) &&&
    mask (casePoints expansions runs ++ rangePoints blankRanges) = 0
  /-- Every code point of an image stands for a character. -/
  valid : ∀ n ∈ caseImages expansions runs, n.isValidChar
  nonempty : ∀ e ∈ expansions, e.2 ≠ []

/-- The table of capital letters need not be applied twice. -/
theorem settled_upper : Settled upperExpansions upperRuns where
  apart := by decide +kernel
  valid := by decide +kernel
  nonempty := by decide

/-- The table of small letters need not be applied twice. -/
theorem settled_lower : Settled lowerExpansions lowerRuns where
  apart := by decide +kernel
  valid := by decide +kernel
  nonempty := by decide

/-- A code point that a run maps is among its points. -/
theorem CaseRun.mem_points {r : CaseRun} {n : Nat} (h : r.maps n = true) : n ∈ r.points := by
  simp only [maps, Bool.and_eq_true, decide_eq_true_eq, beq_iff_eq] at h
  obtain ⟨⟨hfirst, hmod⟩, hcount⟩ := h
  have hdiv := Nat.div_add_mod (n - r.first) r.step
  exact List.mem_map.mpr ⟨(n - r.first) / r.step, List.mem_range.mpr hcount, by omega⟩

/-- A code point is mapped by a run that has it among its points, or stays. -/
theorem runImage_cases (runs : List CaseRun) (n : Nat) :
    runImage runs n = n ∨ ∃ r ∈ runs, n ∈ r.points ∧ runImage runs n ∈ r.images := by
  induction runs with
  | nil => exact Or.inl rfl
  | cons r rest ih =>
    unfold runImage
    split
    · exact Or.inl rfl
    · split
      · rename_i hmaps
        have hpoint := CaseRun.mem_points hmaps
        exact Or.inr ⟨r, List.mem_cons_self, hpoint, List.mem_map.mpr ⟨n, hpoint, rfl⟩⟩
      · rcases ih with ih | ⟨r', hr', ih⟩
        · exact Or.inl ih
        · exact Or.inr ⟨r', List.mem_cons_of_mem _ hr', ih⟩

section Mapping

variable {expansions : List (Nat × List Nat)} {runs : List CaseRun}

/-- A character of an image is its own image and no white space. -/
theorem Settled.mapChar_ofNat (h : Settled expansions runs) {n : Nat}
    (hn : n ∈ caseImages expansions runs) :
    mapChar expansions runs (Char.ofNat n) = [Char.ofNat n] ∧ isBlank (Char.ofNat n) = false := by
  have hfree := not_mem_of_mask h.apart hn
  have hnat : (Char.ofNat n).toNat = n := by
    rw [Char.ofNat, dif_pos (h.valid n hn)]
    rfl
  have hexp : expansions.lookup n = none := by
    refine List.lookup_eq_none_iff.mpr fun e he => ?_
    have hne : n ≠ e.1 := by
      rintro rfl
      exact hfree (by simp [casePoints, List.mem_map_of_mem he])
    simpa using hne
  have hrun : runImage runs n = n := by
    rcases runImage_cases runs n with hstay | ⟨r, hr, hpoint, -⟩
    · exact hstay
    · have hmem : n ∈ runs.flatMap CaseRun.points := List.mem_flatMap.mpr ⟨r, hr, hpoint⟩
      exact absurd (by simp [casePoints, hmem]) hfree
  refine ⟨?_, ?_⟩
  · simp only [mapChar, hnat, hexp, hrun]
  · unfold isBlank
    rw [hnat]
    refine Bool.eq_false_iff.mpr fun hblank => hfree ?_
    exact List.mem_append_right _ (mem_rangePoints hblank)

/-- A character is its own image, or its image is made of characters that are and that are no white
space. -/
theorem Settled.mapChar_cases (h : Settled expansions runs) (c : Char) :
    mapChar expansions runs c = [c] ∨ mapChar expansions runs c ≠ [] ∧
      ∀ d ∈ mapChar expansions runs c, mapChar expansions runs d = [d] ∧ isBlank d = false := by
  cases hexp : expansions.lookup c.toNat with
  | some image =>
    have himage : mapChar expansions runs c = image.map Char.ofNat := by simp only [mapChar, hexp]
    obtain ⟨before, after, htable, -⟩ := List.lookup_eq_some_iff.mp hexp
    have hmem : (c.toNat, image) ∈ expansions := by rw [htable]; simp
    rw [himage]
    refine Or.inr ⟨by simpa using h.nonempty _ hmem, ?_⟩
    intro d hd
    obtain ⟨n, hn, rfl⟩ := List.mem_map.mp hd
    exact h.mapChar_ofNat (List.mem_append_left _ (List.mem_flatMap.mpr ⟨_, hmem, hn⟩))
  | none =>
    have himage : mapChar expansions runs c = [Char.ofNat (runImage runs c.toNat)] := by
      simp only [mapChar, hexp]
    rw [himage]
    rcases runImage_cases runs c.toNat with hstay | ⟨r, hr, -, hrun⟩
    · refine Or.inl ?_
      rw [hstay, Char.ofNat_toNat]
    · refine Or.inr ⟨by simp, ?_⟩
      intro d hd
      rw [List.mem_singleton.mp hd]
      exact h.mapChar_ofNat (List.mem_append_right _ (List.mem_flatMap.mpr ⟨r, hr, hrun⟩))

/-- Every character of an image is its own image. -/
theorem Settled.mapChar_of_mem (h : Settled expansions runs) {c d : Char}
    (hd : d ∈ mapChar expansions runs c) : mapChar expansions runs d = [d] := by
  rcases h.mapChar_cases c with hc | ⟨-, hc⟩
  · rw [hc] at hd
    rw [List.mem_singleton.mp hd, hc]
  · exact (hc d hd).1

end Mapping

/-! ### Texts that are mapped -/

/-- Characters that another one becomes: one at least, and white space only if that one is. -/
def Becomes (c : Char) (block : List Char) : Prop :=
  block ≠ [] ∧ (isBlank c = false → ∀ d ∈ block, isBlank d = false)

/-- A single character that is no white space may take the place of any character. -/
theorem becomes_singleton {c d : Char} (h : isBlank d = false) : Becomes c [d] :=
  ⟨by simp, fun _ _ he => List.mem_singleton.mp he ▸ h⟩

/-- What a character is mapped to has characters, and no white space unless the character is some.
-/
theorem Settled.becomes {expansions : List (Nat × List Nat)} {runs : List CaseRun}
    (h : Settled expansions runs) (c : Char) : Becomes c (mapChar expansions runs c) := by
  rcases h.mapChar_cases c with hc | ⟨hne, hc⟩
  · rw [hc]
    exact ⟨by simp, fun hblank d hd => List.mem_singleton.mp hd ▸ hblank⟩
  · exact ⟨hne, fun _ d hd => (hc d hd).2⟩

/-- A text begins with white space only if the text that it was made from does. -/
theorem isBlank_head_flatten {cs : List Char} {blocks : List (List Char)}
    (hblocks : List.Forall₂ Becomes cs blocks) (h : ∀ c, cs.head? = some c → isBlank c = false)
    (d : Char) (hd : blocks.flatten.head? = some d) : isBlank d = false := by
  cases hblocks with
  | nil => simp at hd
  | cons hblock _ =>
    obtain ⟨hne, hblank⟩ := hblock
    rw [List.flatten_cons, List.head?_append_of_ne_nil _ hne] at hd
    exact hblank (h _ rfl) d (List.mem_of_head? hd)

/-- What a trimmed text becomes is trimmed. -/
theorem Trimmed.flatten {cs : List Char} {blocks : List (List Char)} (h : Trimmed cs)
    (hblocks : List.Forall₂ Becomes cs blocks) : Trimmed blocks.flatten where
  head := isBlank_head_flatten hblocks h.head
  last := by
    -- Backwards the last character is the first one, also within each block.
    have hback : List.Forall₂ Becomes cs.reverse (blocks.map List.reverse).reverse := by
      rw [List.forall₂_reverse_iff, List.forall₂_map_right_iff]
      exact hblocks.imp fun c block hblock => ⟨by simpa using hblock.1, by simpa using hblock.2⟩
    have hend : ∀ c, cs.reverse.head? = some c → isBlank c = false := by
      rw [List.head?_reverse]
      exact h.last
    have hlast := isBlank_head_flatten hback hend
    rwa [← List.reverse_flatten, List.head?_reverse] at hlast

/-! ### Capital letters -/

/-- The capital form of a capital form is the form itself. -/
theorem upperChars_upperChars (cs : List Char) :
    (cs.flatMap upperChar).flatMap upperChar = cs.flatMap upperChar := by
  rw [List.flatMap_assoc]
  refine List.flatMap_congr fun c _ => ?_
  calc (upperChar c).flatMap upperChar = (upperChar c).flatMap fun d => [d] :=
        List.flatMap_congr fun d hd => settled_upper.mapChar_of_mem hd
    _ = upperChar c := List.flatMap_singleton' _

/-- The capital form of a trimmed text is trimmed. -/
theorem Trimmed.upperChars {cs : List Char} (h : Trimmed cs) :
    Trimmed (cs.flatMap upperChar) := by
  have hblocks : List.Forall₂ Becomes cs (cs.map upperChar) := by
    rw [List.forall₂_map_right_iff, List.forall₂_same]
    exact fun c _ => settled_upper.becomes c
  exact h.flatten hblocks

/-- The normal form of a correlation id is its own normal form. -/
theorem correlationForm_correlationForm (s : String) :
    correlationForm (correlationForm s) = correlationForm s := by
  -- The form is trimmed already, so only the mapping is done once more.
  have htrim : trim (correlationForm s) = correlationForm s := by
    simp only [correlationForm, upper, trim, String.toList_ofList]
    rw [(trimmed_trimChars s.toList).upperChars.trimChars_eq]
  calc correlationForm (correlationForm s) = upper (correlationForm s) := by
        rw [correlationForm, htrim]
    _ = correlationForm s := by
        simp only [correlationForm, upper, String.toList_ofList, upperChars_upperChars]

/-- What is left of a text with a character that is not white space is not empty. -/
theorem trimStart_ne_nil {cs : List Char} {c : Char} (hc : c ∈ cs) (hblank : isBlank c = false) :
    trimStart cs ≠ [] := by
  intro hnil
  have hall := List.dropWhile_eq_nil_iff.mp (show cs.dropWhile isBlank = [] from hnil) c hc
  simp [hblank] at hall

/-- The normal form of a correlation id is empty only if the id is nothing but white space. -/
theorem correlationForm_ne_empty {s : String} {c : Char} (hc : c ∈ s.toList)
    (hblank : isBlank c = false) : correlationForm s ≠ "" := by
  have hstart : trimStart s.toList ≠ [] := trimStart_ne_nil hc hblank
  -- What is left begins with a character that is not white space, so something is left at the end.
  have htrim : trimChars s.toList ≠ [] := by
    obtain ⟨d, rest, hd⟩ := List.exists_cons_of_ne_nil hstart
    have hfirst : isBlank d = false := isBlank_head_trimStart s.toList d (by rw [hd]; rfl)
    have hlast : trimStart (trimStart s.toList).reverse ≠ [] :=
      trimStart_ne_nil (List.mem_reverse.mpr (hd ▸ List.mem_cons_self)) hfirst
    exact fun hnil => hlast (List.reverse_eq_nil_iff.mp hnil)
  obtain ⟨d, rest, hd⟩ := List.exists_cons_of_ne_nil htrim
  intro hempty
  have hchars : (trimChars s.toList).flatMap upperChar = [] := by
    have hlist := congrArg String.toList hempty
    rwa [correlationForm, upper, trim, String.toList_ofList, String.toList_ofList] at hlist
  rw [hd, List.flatMap_cons, List.append_eq_nil_iff] at hchars
  exact (settled_upper.becomes d).1 hchars.1

/-! ### Small letters -/

/-- A character that is left alone in every context. -/
def IsSmall (c : Char) : Prop := c ≠ 'Σ' ∧ lowerChar c = [c]

/-- A text of such characters is left alone, whatever comes before it. -/
theorem lowerFrom_eq_self {cs : List Char} (h : ∀ c ∈ cs, IsSmall c) (before : List Char) :
    lowerFrom before cs = cs := by
  induction cs generalizing before with
  | nil => rfl
  | cons c rest ih =>
    obtain ⟨⟨hsigma, hc⟩, hrest⟩ := List.forall_mem_cons.mp h
    rw [lowerFrom, if_neg hsigma, hc, ih hrest]
    rfl

/-- What becomes of a character is small. It is no capital sigma, for that would be mapped again. -/
theorem isSmall_of_mem_lowerChar {c d : Char} (h : d ∈ lowerChar c) : IsSmall d := by
  refine ⟨?_, settled_lower.mapChar_of_mem h⟩
  rintro rfl
  have hself : lowerChar 'Σ' = ['Σ'] := settled_lower.mapChar_of_mem h
  exact absurd hself (by decide)

/-- The small form of a text has some characters for each of the text, all of them small. -/
theorem lowerFrom_eq_flatten (before cs : List Char) : ∃ blocks : List (List Char),
    lowerFrom before cs = blocks.flatten ∧ List.Forall₂ Becomes cs blocks ∧
      ∀ d ∈ blocks.flatten, IsSmall d := by
  induction cs generalizing before with
  | nil => exact ⟨[], rfl, .nil, by simp⟩
  | cons c rest ih =>
    obtain ⟨blocks, hrest, hblocks, hsmall⟩ := ih (c :: before)
    -- It remains to say what the first character becomes.
    have hcons (block : List Char) (hfirst : lowerFrom before (c :: rest) =
        block ++ lowerFrom (c :: before) rest) (hblock : Becomes c block)
        (hsmall' : ∀ d ∈ block, IsSmall d) : ∃ blocks : List (List Char),
          lowerFrom before (c :: rest) = blocks.flatten ∧ List.Forall₂ Becomes (c :: rest) blocks ∧
            ∀ d ∈ blocks.flatten, IsSmall d := by
      refine ⟨block :: blocks, by rw [hfirst, hrest, List.flatten_cons], .cons hblock hblocks, ?_⟩
      rw [List.flatten_cons]
      exact List.forall_mem_append.mpr ⟨hsmall', hsmall⟩
    by_cases hsigma : c = 'Σ'
    · refine hcons _ (by rw [lowerFrom, if_pos hsigma]) (becomes_singleton ?_) ?_
      · split <;> decide
      · rw [List.forall_mem_singleton]
        unfold IsSmall
        split <;> decide
    · exact hcons (lowerChar c) (by rw [lowerFrom, if_neg hsigma]) (settled_lower.becomes c)
        fun d hd => isSmall_of_mem_lowerChar hd

/-- The normal form of a channel, kind or action is its own normal form. -/
theorem routingForm_routingForm (s : String) : routingForm (routingForm s) = routingForm s := by
  obtain ⟨blocks, hlower, hblocks, hsmall⟩ := lowerFrom_eq_flatten [] (trimChars s.toList)
  have hform : routingForm s = String.ofList blocks.flatten := by
    simp only [routingForm, lower, trim, String.toList_ofList, hlower]
  -- The form is trimmed, and each of its characters is left alone.
  have htrim := ((trimmed_trimChars s.toList).flatten hblocks).trimChars_eq
  rw [hform]
  simp only [routingForm, lower, trim, String.toList_ofList, htrim, lowerFrom_eq_self hsmall]

end CommandMesh.Text
