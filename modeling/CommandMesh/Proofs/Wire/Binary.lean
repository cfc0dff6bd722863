import CommandMesh.Wire.Binary
import Mathlib.Algebra.Group.Nat.Defs

/-!
# `CommandMesh.Proofs.Wire.Binary`: what the binary format gives back

The binary format has no names and no marks between parts: a reader knows from the layout what comes
next. A word takes as many bytes as it has, lowest first, a length eight bytes, a tag one and a
choice four. A value is therefore read from the start of the bytes it gets, and what comes after it
is left for whoever reads next.

A length is written in eight bytes, so a text or a list is written faithfully if it is shorter than
2 to the 64th: `Wire.Fits` says so of all that a value holds. No machine has room for a value that
does not fit, but the lists here have no bound, so that the condition has to be named. Every word
fits by its type. A layout that `occupies` bytes writes at least one for every value, because some
part of it does; a record without members has none.

In both directions the theorems are inductions over the layout. That what is written is read back is
one induction with a short case for each kind. That nothing else is read needs more for each kind,
so every kind has a lemma (`readsWritten_text`, `ReadsWritten.list` and so on) and the induction
only puts them together; a new kind of layout needs one more lemma. The four widths of words share
one lemma, `Bytes.eq_append_of_word`.

The theorems:

* `takeLittleEndian?_append`, `takeMany?_append`: the numbers and the rows that everything else is
  made of are read back.
* `decode?_encode`: a value that fits is read back, whatever bytes follow it.
* `readsWritten`: a value that is read fits, and it is read from the bytes that are written for it.
* `decode?_eq_some_iff`: nothing else is read. Bytes that are read as a value start with what is
  written for it, so each value has one spelling.
* `encode_ne_nil`: the bytes of a value are never none.
-/

set_option autoImplicit false

namespace CommandMesh

namespace Bytes

/-- A number that `width` bytes can hold is read back from them. -/
theorem takeLittleEndian?_append {width n : Nat} (h : n < 256 ^ width) (rest : List UInt8) :
    takeLittleEndian? width (littleEndian width n ++ rest) = some (n, rest) := by
  induction width generalizing n with
  | zero =>
    have hzero : n = 0 := by simpa using h
    rw [hzero]
    rfl
  | succ width ih =>
    -- The lowest byte comes first, so the induction goes on with what is above it.
    have hhigh : n / 256 < 256 ^ width := by
      rw [Nat.div_lt_iff_lt_mul (by decide), ← Nat.pow_succ]
      exact h
    have hlow : (UInt8.ofNat (n % 256)).toNat = n % 256 :=
      UInt8.toNat_ofNat_of_lt (Nat.mod_lt n (by decide))
    have hwhole : n % 256 + 256 * (n / 256) = n := Nat.mod_add_div n 256
    simp only [littleEndian, List.cons_append, takeLittleEndian?, ih hhigh, Option.map_some, hlow,
      hwhole]

/-- As many bytes as are asked for are taken off the front. -/
theorem split?_append (bs rest : List UInt8) : split? bs.length (bs ++ rest) = some (bs, rest) := by
  simp [split?]

/-- A number is written in as many bytes as are asked for, large or small. -/
theorem length_littleEndian (width n : Nat) : (littleEndian width n).length = width := by
  induction width generalizing n with
  | zero => rfl
  | succ width ih => rw [littleEndian, List.length_cons, ih]

/-- Items that are each read back are read back in a row. -/
theorem takeMany?_append {α : Type} {read : List UInt8 → Option (α × List UInt8)}
    {write : α → List UInt8} {as : List α}
    (h : ∀ a ∈ as, ∀ rest, read (write a ++ rest) = some (a, rest)) (rest : List UInt8) :
    takeMany? read as.length (as.flatMap write ++ rest) = some (as, rest) := by
  induction as with
  | nil => rfl
  | cons a as ih =>
    have hrest := ih fun a' ha' => h a' (List.mem_cons_of_mem a ha')
    rw [List.flatMap_cons, List.append_assoc, List.length_cons, takeMany?,
      h a List.mem_cons_self]
    simp only [Option.bind_eq_bind, Option.bind_some, hrest]

/-- A number that is read fits into the bytes that it is read from, and they are its bytes. -/
theorem takeLittleEndian?_eq_some {width n : Nat} {bs rest : List UInt8}
    (h : takeLittleEndian? width bs = some (n, rest)) :
    n < 256 ^ width ∧ bs = littleEndian width n ++ rest := by
  induction width generalizing n bs with
  | zero =>
    obtain ⟨rfl, rfl⟩ := Prod.mk.inj (Option.some.inj h)
    exact ⟨by decide, rfl⟩
  | succ width ih =>
    cases bs with
    | nil => simp [takeLittleEndian?] at h
    | cons b bs =>
      obtain ⟨⟨high, rest'⟩, hhigh, heq⟩ := Option.map_eq_some_iff.mp h
      obtain ⟨rfl, rfl⟩ := Prod.mk.inj heq
      obtain ⟨hlt, rfl⟩ := ih hhigh
      have hb : b.toNat < 256 := b.toNat_lt
      have hlow : (b.toNat + 256 * high) % 256 = b.toNat := by omega
      have hrest : (b.toNat + 256 * high) / 256 = high := by omega
      refine ⟨by rw [Nat.pow_succ]; omega, ?_⟩
      rw [littleEndian, hlow, hrest, UInt8.ofNat_toNat, List.cons_append]

/-- A word that is read is written with the bytes it is read from. -/
theorem eq_append_of_word {α : Type} {width : Nat} (make : Nat → α) (number : α → Nat)
    (hnumber : ∀ n < 256 ^ width, number (make n) = n) {a : α} {bs rest : List UInt8}
    (h : (takeLittleEndian? width bs).map (fun (n, bs) => (make n, bs)) = some (a, rest)) :
    bs = littleEndian width (number a) ++ rest := by
  obtain ⟨⟨n, rest'⟩, hn, heq⟩ := Option.map_eq_some_iff.mp h
  obtain ⟨rfl, rfl⟩ := Prod.mk.inj heq
  obtain ⟨hlt, rfl⟩ := takeLittleEndian?_eq_some hn
  rw [hnumber n hlt]

/-- What is taken off the front has the length that was asked for, and the rest follows it. -/
theorem split?_eq_some {n : Nat} {bs taken rest : List UInt8}
    (h : split? n bs = some (taken, rest)) : taken.length = n ∧ bs = taken ++ rest := by
  unfold split? at h
  split at h
  · next hle =>
    obtain ⟨rfl, rfl⟩ := Prod.mk.inj (Option.some.inj h)
    exact ⟨List.length_take_of_le hle, (List.take_append_drop n bs).symm⟩
  · exact absurd h (by simp)

/-- Items that are read in a row are as many as were asked for, and were each read from their
bytes. -/
theorem takeMany?_eq_some {α : Type} {read : List UInt8 → Option (α × List UInt8)}
    {write : α → List UInt8} {good : α → Prop}
    (h : ∀ bs a rest, read bs = some (a, rest) → good a ∧ bs = write a ++ rest)
    {n : Nat} {bs rest : List UInt8} {as : List α} (hmany : takeMany? read n bs = some (as, rest)) :
    as.length = n ∧ (∀ a ∈ as, good a) ∧ bs = as.flatMap write ++ rest := by
  induction n generalizing bs as with
  | zero =>
    obtain ⟨rfl, rfl⟩ := Prod.mk.inj (Option.some.inj hmany)
    exact ⟨rfl, by simp, rfl⟩
  | succ n ih =>
    simp only [takeMany?, Option.bind_eq_bind, Option.bind_eq_some_iff, Prod.exists] at hmany
    obtain ⟨a, bs', hfirst, as', rest', hothers, heq⟩ := hmany
    obtain ⟨rfl, rfl⟩ := Prod.mk.inj (Option.some.inj heq)
    obtain ⟨hgood, rfl⟩ := h _ _ _ hfirst
    obtain ⟨rfl, hall, rfl⟩ := ih hothers
    refine ⟨rfl, List.forall_mem_cons.mpr ⟨hgood, hall⟩, ?_⟩
    rw [List.flatMap_cons, List.append_assoc]

end Bytes

namespace Wire

open Bytes

/-- The number of bytes or items that a length can count. -/
def lengthBound : Nat := 256 ^ 8

/-- Every text and list of the value is short enough for its length to be written. -/
def Fits : {f : Form} → {α : Type} → Wire f α → α → Prop
  | _, _, .text, s => (Text.bytes s).length < lengthBound
  | _, _, .bool, _ | _, _, .word8, _ | _, _, .word16, _ | _, _, .word32, _ | _, _, .word64, _
  | _, _, .int64, _ | _, _, .choice _ _ _, _ | _, _, .done, _ => True
  | _, _, .list item, as => as.length < lengthBound ∧ ∀ a ∈ as, item.Fits a
  | _, _, .option item, o => ∀ a, o = some a → item.Fits a
  | _, _, .record members, a => members.Fits a
  | _, _, .iso layout _ parts _ _, b => layout.Fits (parts b)
  | _, _, .member _ w _ rest, (a, b) => w.Fits a ∧ rest.Fits b

/-- Whether every value of the layout takes a byte. -/
def occupies : {f : Form} → {α : Type} → Wire f α → Bool
  | _, _, .text | _, _, .bool | _, _, .word8 | _, _, .word16 | _, _, .word32 | _, _, .word64
  | _, _, .int64 | _, _, .list _ | _, _, .option _ | _, _, .choice _ _ _ => true
  | _, _, .record members => members.occupies
  | _, _, .iso layout _ _ _ _ => layout.occupies
  | _, _, .done => false
  | _, _, .member _ w _ rest => w.occupies || rest.occupies

/-- A value that fits is read back, and the bytes after it are left as they are. -/
theorem decode?_encode {f : Form} {α : Type} (w : Wire f α) {a : α} (h : w.Fits a)
    (rest : List UInt8) : w.decode? (w.encode a ++ rest) = some (a, rest) := by
  induction w generalizing rest with
  | text =>
    rw [encode, List.append_assoc, decode?, takeLittleEndian?_append h]
    simp only [Option.bind_eq_bind, Option.bind_some, split?_append, Text.ofBytes?_bytes]
  | bool => cases a <;> rfl
  | word8 => rfl
  | word16 =>
    have hlt : a.toNat < 256 ^ 2 := a.toNat_lt
    simp only [encode, decode?, takeLittleEndian?_append hlt, Option.map_some, UInt16.ofNat_toNat]
  | word32 =>
    have hlt : a.toNat < 256 ^ 4 := a.toNat_lt
    simp only [encode, decode?, takeLittleEndian?_append hlt, Option.map_some, UInt32.ofNat_toNat]
  | word64 =>
    have hlt : a.toNat < 256 ^ 8 := a.toNat_lt
    simp only [encode, decode?, takeLittleEndian?_append hlt, Option.map_some, UInt64.ofNat_toNat]
  | int64 =>
    -- Written as the word with the same bits.
    have hlt : a.toUInt64.toNat < 256 ^ 8 := a.toUInt64.toNat_lt
    simp only [encode, decode?, takeLittleEndian?_append hlt, Option.map_some, UInt64.ofNat_toNat,
      Int64.toInt64_toUInt64]
  | list item ih =>
    rw [encode, List.append_assoc, decode?, takeLittleEndian?_append h.1]
    exact takeMany?_append (fun a ha rest => ih (h.2 a ha) rest) rest
  | option item ih =>
    cases a with
    | none => rfl
    | some a =>
      simp only [encode, decode?, List.cons_append, ih (h a rfl), Option.map_some]
  | choice names nodup small =>
    -- A position is below the number of names, of which there are fewer than a byte can count.
    have hlt : a.val < 256 ^ 4 := by
      have := a.isLt
      omega
    simp only [encode, decode?, takeLittleEndian?_append hlt, Option.bind_eq_bind,
      Option.bind_some, dif_pos a.isLt]
  | record members ih => exact ih h rest
  | iso layout make parts parts_make make_parts ih =>
    simp only [encode, decode?, ih h, Option.map_some, make_parts]
  | done => rfl
  | member name w absent rest' ihw ihrest =>
    obtain ⟨a, b⟩ := a
    -- What follows the first member are the others and then the rest.
    rw [encode, List.append_assoc, decode?, ihw h.1]
    simp only [Option.bind_eq_bind, Option.bind_some, ihrest h.2]

/-- Every value of a layout that takes a byte has bytes. -/
theorem encode_ne_nil {f : Form} {α : Type} {w : Wire f α} (h : w.occupies = true) (a : α) :
    w.encode a ≠ [] := by
  induction w with
  | text | list item ih =>
    -- The length alone takes eight bytes.
    intro hnil
    have hlength := congrArg List.length hnil
    simp [encode, length_littleEndian] at hlength
  | bool | word8 => exact List.cons_ne_nil _ _
  | word16 | word32 | word64 | int64 | choice names nodup small =>
    exact List.cons_ne_nil _ _
  | option item ih => cases a <;> exact List.cons_ne_nil _ _
  | record members ih => exact ih h a
  | iso layout make parts parts_make make_parts ih => exact ih h (parts a)
  | done => simp [occupies] at h
  | member name w absent rest ihw ihrest =>
    obtain ⟨a, b⟩ := a
    intro hnil
    obtain ⟨hw, hrest⟩ := List.append_eq_nil_iff.mp hnil
    -- One member that takes a byte is enough.
    rcases Bool.or_eq_true_iff.mp h with h | h
    · exact ihw h a hw
    · exact ihrest h b hrest

/-! ### Nothing else is read -/

/-- A value that is read fits, and it is read from the bytes that are written for it. -/
def ReadsWritten {f : Form} {α : Type} (w : Wire f α) : Prop :=
  ∀ ⦃a : α⦄ ⦃bs rest : List UInt8⦄, w.decode? bs = some (a, rest) →
    w.Fits a ∧ bs = w.encode a ++ rest

/-- A text is read from its length and as many bytes, which have to be those of a text. -/
theorem readsWritten_text : Wire.text.ReadsWritten := by
  intro a bs rest h
  simp only [decode?, Option.bind_eq_bind, Option.bind_eq_some_iff, Prod.exists] at h
  obtain ⟨n, bs', hlength, contents, rest', hsplit, s, hs, heq⟩ := h
  obtain ⟨rfl, rfl⟩ := Prod.mk.inj (Option.some.inj heq)
  obtain ⟨hlt, rfl⟩ := takeLittleEndian?_eq_some hlength
  obtain ⟨rfl, rfl⟩ := split?_eq_some hsplit
  rw [Text.ofBytes?_eq_some_iff] at hs
  subst hs
  exact ⟨hlt, by rw [encode, List.append_assoc]⟩

/-- A truth value is read from its tag, and no third tag is one. -/
theorem readsWritten_bool : Wire.bool.ReadsWritten := by
  intro a bs rest h
  simp only [decode?] at h
  split at h
  · obtain ⟨rfl, rfl⟩ := Prod.mk.inj (Option.some.inj h)
    exact ⟨trivial, rfl⟩
  · obtain ⟨rfl, rfl⟩ := Prod.mk.inj (Option.some.inj h)
    exact ⟨trivial, rfl⟩
  · exact absurd h (by simp)

/-- A byte is read from itself. -/
theorem readsWritten_word8 : Wire.word8.ReadsWritten := by
  intro a bs rest h
  cases bs with
  | nil => simp [decode?] at h
  | cons b bs =>
    obtain ⟨rfl, rfl⟩ := Prod.mk.inj (Option.some.inj h)
    exact ⟨trivial, rfl⟩

/-- An integer is read from the word with the same bits. -/
theorem readsWritten_int64 : Wire.int64.ReadsWritten := by
  intro a bs rest h
  refine ⟨trivial, eq_append_of_word (fun n => (UInt64.ofNat n).toInt64)
    (fun i => i.toUInt64.toNat) (fun _ hlt => ?_) h⟩
  rw [UInt64.toUInt64_toInt64, UInt64.toNat_ofNat_of_lt' hlt]

/-- A choice is read from a position that there is a name for. -/
theorem readsWritten_choice (names : List String) (nodup : names.Nodup)
    (small : names.length < 256) : (Wire.choice names nodup small).ReadsWritten := by
  intro a bs rest h
  simp only [decode?, Option.bind_eq_bind, Option.bind_eq_some_iff, Prod.exists] at h
  obtain ⟨n, bs', hn, hchoice⟩ := h
  obtain ⟨-, rfl⟩ := takeLittleEndian?_eq_some hn
  split at hchoice
  · obtain ⟨rfl, rfl⟩ := Prod.mk.inj (Option.some.inj hchoice)
    exact ⟨trivial, rfl⟩
  · exact absurd hchoice (by simp)

/-- A list is read from the number of its items and from them, one after the other. -/
theorem ReadsWritten.list {α : Type} {item : Wire .value α} (hitem : item.ReadsWritten) :
    (Wire.list item).ReadsWritten := by
  intro as bs rest h
  simp only [decode?, Option.bind_eq_bind, Option.bind_eq_some_iff, Prod.exists] at h
  obtain ⟨n, bs', hlength, hmany⟩ := h
  obtain ⟨hlt, rfl⟩ := takeLittleEndian?_eq_some hlength
  obtain ⟨rfl, hall, rfl⟩ := takeMany?_eq_some (fun _ _ _ => @hitem _ _ _) hmany
  exact ⟨⟨hlt, hall⟩, by rw [encode, List.append_assoc]⟩

/-- An option is read from its tag and from what it holds, and no third tag is one. -/
theorem ReadsWritten.option {α : Type} {item : Wire .value α} (hitem : item.ReadsWritten) :
    (Wire.option item).ReadsWritten := by
  intro o bs rest h
  simp only [decode?] at h
  split at h
  · obtain ⟨rfl, rfl⟩ := Prod.mk.inj (Option.some.inj h)
    exact ⟨fun _ heq => absurd heq (by simp), rfl⟩
  · obtain ⟨⟨x, rest'⟩, hx, heq⟩ := Option.map_eq_some_iff.mp h
    obtain ⟨rfl, rfl⟩ := Prod.mk.inj heq
    obtain ⟨hfits, rfl⟩ := hitem hx
    exact ⟨fun _ heq => Option.some.inj heq ▸ hfits, rfl⟩
  · exact absurd h (by simp)

/-- A type that is laid out like another one is read from what is written for that one. -/
theorem ReadsWritten.iso {α β : Type} {layout : Wire .value α} {make : α → β} {parts : β → α}
    (parts_make : ∀ a, parts (make a) = a) (make_parts : ∀ b, make (parts b) = b)
    (hlayout : layout.ReadsWritten) :
    (Wire.iso layout make parts parts_make make_parts).ReadsWritten := by
  intro b bs rest h
  obtain ⟨⟨x, rest'⟩, hx, heq⟩ := Option.map_eq_some_iff.mp h
  obtain ⟨rfl, rfl⟩ := Prod.mk.inj heq
  obtain ⟨hfits, rfl⟩ := hlayout hx
  rw [Fits, encode, parts_make]
  exact ⟨hfits, rfl⟩

/-- A member is read before those after it. -/
theorem ReadsWritten.member {α β : Type} {name : String} {w : Wire .value α} {absent : Option α}
    {others : Wire .members β} (hw : w.ReadsWritten) (hothers : others.ReadsWritten) :
    (Wire.member name w absent others).ReadsWritten := by
  intro ab bs rest h
  simp only [decode?, Option.bind_eq_bind, Option.bind_eq_some_iff, Prod.exists] at h
  obtain ⟨x, bs', hx, y, rest', hy, heq⟩ := h
  obtain ⟨rfl, rfl⟩ := Prod.mk.inj (Option.some.inj heq)
  obtain ⟨hfits, rfl⟩ := hw hx
  obtain ⟨hfits', rfl⟩ := hothers hy
  exact ⟨⟨hfits, hfits'⟩, by rw [encode, List.append_assoc]⟩

/-- What any layout reads is a value that fits, from the bytes that are written for it. -/
theorem readsWritten {f : Form} {α : Type} (w : Wire f α) : w.ReadsWritten := by
  induction w with
  | text => exact readsWritten_text
  | bool => exact readsWritten_bool
  | word8 => exact readsWritten_word8
  | word16 =>
    exact fun _ _ _ h => ⟨trivial, eq_append_of_word UInt16.ofNat UInt16.toNat
      (fun _ hlt => UInt16.toNat_ofNat_of_lt' hlt) h⟩
  | word32 =>
    exact fun _ _ _ h => ⟨trivial, eq_append_of_word UInt32.ofNat UInt32.toNat
      (fun _ hlt => UInt32.toNat_ofNat_of_lt' hlt) h⟩
  | word64 =>
    exact fun _ _ _ h => ⟨trivial, eq_append_of_word UInt64.ofNat UInt64.toNat
      (fun _ hlt => UInt64.toNat_ofNat_of_lt' hlt) h⟩
  | int64 => exact readsWritten_int64
  | list item ih => exact ih.list
  | option item ih => exact ih.option
  | choice names nodup small => exact readsWritten_choice names nodup small
  | record members ih => exact ih
  | iso layout make parts parts_make make_parts ih => exact ih.iso parts_make make_parts
  | done =>
    intro a bs rest h
    obtain ⟨-, rfl⟩ := Prod.mk.inj (Option.some.inj h)
    exact ⟨trivial, rfl⟩
  | member name w absent others ihw ihothers => exact ihw.member ihothers

/-- What is read is a value that fits, from its bytes at the start, and nothing else is. -/
theorem decode?_eq_some_iff {f : Form} {α : Type} (w : Wire f α) {a : α} {bs rest : List UInt8} :
    w.decode? bs = some (a, rest) ↔ w.Fits a ∧ bs = w.encode a ++ rest := by
  -- The two directions are the two inductions over the layout.
  constructor
  · exact fun h => w.readsWritten h
  · rintro ⟨hfits, rfl⟩
    exact w.decode?_encode hfits rest

end Wire

end CommandMesh
