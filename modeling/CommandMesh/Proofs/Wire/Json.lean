import CommandMesh.Proofs.Json.Parsing
import CommandMesh.Wire.Json
import Mathlib.Data.List.Forall2
import Mathlib.Data.List.Nodup

/-!
# `CommandMesh.Proofs.Wire.Json`: what JSON gives back

`Wire.Shows w a j` says that the JSON value `j` shows the value `a` in the layout `w`: each part of
`a` is where a reader looks for it. The members of an object may stand in any order, and others may
stand between them. A reader looks members up by their names; a record can also be read from an
array, by position, but nothing is written in this way and nothing here is about it.

Two things keep JSON from telling values apart: an option of something that may itself be written as
null, and two members of one name. A layout without either is `clear`, which can be computed and is
for every layout that a host knows by name. A layout that is not clear may still be read and
written; only then the theorems promise nothing about it.

`Wire.Rearranged` is what may be done to the JSON value that is written for a value without changing
what a reader takes it for: the members of each object are permuted, others of names that the layout
does not know are put among them, and the same is done below. It is stated on the JSON value and not
on its bytes; the spellings of the bytes are the subject of `CommandMesh.Proofs.Json.Spelling`, and
`CommandMesh.Proofs.Wire.Payload` puts the two together.

Layouts are described by an inductive type with one index for whole values and one for the members
of a record, so every theorem about all layouts is an induction with two kinds of statements:
`ShowsRearranged` and `WritesWritten` say for either kind what is to be proved. A reader of members
gets the whole object and looks up one name after the other. This is why the statement for members
is about every list that has the same members under each name as the rearranged ones, and not about
a permutation of these, which would not be left when one member is taken away.

The theorems:

* `ofJson?_of_shows`: a reader takes a JSON value for the value that it shows.
* `showsRearranged`: what is written for a value of a clear layout shows that value, and so does
  every JSON value that is what is written `Rearranged`.
* `writesWritten`: what is written for a value can be written in bytes.
* `ofJson?_of_rearranged`, `parse?_render_toJson`: so the value is read back, also from the bytes.
-/

set_option autoImplicit false

namespace CommandMesh

namespace Wire

variable {f : Form} {α : Type}

/-! ### What a JSON value shows -/

/-- The JSON value, or the members of an object, show the value. -/
def Shows : {f : Form} → {α : Type} → Wire f α → α → f.Source → Prop
  | _, _, .text, s, j => j = .str s
  | _, _, .bool, b, j => j = .bool b
  | _, _, .word8, w, j => j = Json.ofNat w.toNat
  | _, _, .word16, w, j => j = Json.ofNat w.toNat
  | _, _, .word32, w, j => j = Json.ofNat w.toNat
  | _, _, .word64, w, j => j = Json.ofNat w.toNat
  | _, _, .int64, i, j => j = Json.ofInt i.toInt
  | _, _, .list item, as, j => ∃ js, j = .array js ∧ List.Forall₂ item.Shows as js
  | _, _, .option item, o, j =>
    match o with
    | none => j = .null
    | some a => j ≠ .null ∧ item.Shows a j
  | _, _, .choice names _ _, i, j => j = .str (names.get i)
  | _, _, .record members, a, j =>
    ∃ ms, j = .object ms ∧ (∀ m ∈ ms, m.1.isSome) ∧ members.Shows a (.named ms)
  | _, _, .iso layout _ parts _ _, b, j => layout.Shows (parts b) j
  | _, _, .done, _, fields => ∃ ms, fields = .named ms
  | _, _, .member name w _ rest, (a, b), fields =>
    ∃ ms v, fields = .named ms ∧ Json.membersNamed name ms = [v] ∧ w.Shows a v ∧
      rest.Shows b fields

/-- A number below the bound is read back from its digits. -/
theorem natBelow?_ofNat {bound n : Nat} (h : n < bound) :
    natBelow? bound (Json.ofNat n) = some n := by
  have hvalue : Json.integer? (Json.digits n) = some (Int.ofNat n) := Json.integer?_spell (.ofNat n)
  simp only [natBelow?, Json.ofNat, hvalue, if_pos h]

/-- A signed word is read back from its digits and sign, for all of them are within the bounds. -/
theorem int64?_ofInt (i : Int64) : int64? (Json.ofInt i.toInt) = some i := by
  have hlow : -9223372036854775808 ≤ i.toInt := i.le_toInt
  have hhigh : i.toInt < 9223372036854775808 := i.toInt_lt
  simp only [int64?, Json.ofInt, Json.integer?_spell, if_pos (And.intro hlow hhigh),
    Int64.ofInt_toInt]

/-- A position is found under its name, for no two have the same. -/
theorem finIdxOf?_get {names : List String} (h : names.Nodup) (i : Fin names.length) :
    names.finIdxOf? (names.get i) = some i := by
  rw [List.finIdxOf?_eq_some_iff]
  refine ⟨rfl, fun j hj heq => ?_⟩
  have hij : j = i := List.nodup_iff_injective_get.mp h heq
  rw [hij] at hj
  exact absurd hj (Fin.lt_irrefl i)

/-- What is not null is read as a value, not as none. -/
theorem ofJson?_option {item : Wire .value α} {j : Json} (h : j ≠ .null) :
    (Wire.option item).ofJson? j = (item.ofJson? j).map some := by
  cases j with
  | null => exact absurd rfl h
  | _ => rfl

/-- A reader takes a JSON value for the value that it shows. -/
theorem ofJson?_of_shows {w : Wire f α} {a : α} {j : f.Source} (h : w.Shows a j) :
    w.ofJson? j = some a := by
  induction w with
  | text | bool =>
    rw [h]
    rfl
  | word8 =>
    rw [h, ofJson?, natBelow?_ofNat a.toNat_lt, Option.map_some, UInt8.ofNat_toNat]
  | word16 =>
    rw [h, ofJson?, natBelow?_ofNat a.toNat_lt, Option.map_some, UInt16.ofNat_toNat]
  | word32 =>
    rw [h, ofJson?, natBelow?_ofNat a.toNat_lt, Option.map_some, UInt32.ofNat_toNat]
  | word64 =>
    rw [h, ofJson?, natBelow?_ofNat a.toNat_lt, Option.map_some, UInt64.ofNat_toNat]
  | int64 =>
    rw [h]
    exact int64?_ofInt a
  | list item ih =>
    obtain ⟨js, rfl, hall⟩ := h
    show js.mapM item.ofJson? = some a
    -- The items are read one by one, each shown by its own JSON value.
    induction hall with
    | nil => rfl
    | cons hhead _ ihtail => simp [List.mapM_cons, ih hhead, ihtail]
  | option item ih =>
    cases a with
    | none =>
      rw [show j = Json.null from h]
      rfl
    | some a =>
      obtain ⟨hnull, hshows⟩ := h
      rw [ofJson?_option hnull, ih hshows, Option.map_some]
  | choice names nodup small =>
    rw [h]
    exact finIdxOf?_get nodup a
  | record members ih =>
    obtain ⟨ms, rfl, hnames, hshows⟩ := h
    -- A member without a name that can be read would make the reader give up.
    have hall : (ms.all fun m => m.1.isSome) = true := List.all_eq_true.mpr hnames
    show (if ms.all (·.1.isSome) then members.ofJson? (.named ms) else none) = _
    rw [if_pos hall]
    exact ih hshows
  | iso layout make parts parts_make make_parts ih =>
    rw [ofJson?, ih h, Option.map_some, make_parts]
  | done =>
    obtain ⟨ms, rfl⟩ := h
    rfl
  | member name w absent rest ihw ihrest =>
    obtain ⟨a, b⟩ := a
    obtain ⟨ms, v, rfl, hnamed, hw, hrest⟩ := h
    simp only [ofJson?, hnamed, ihw hw, ihrest hrest, Option.bind_eq_bind, Option.bind_some]

/-! ### What is written for a value -/

/-- Whether some value of the layout may be written as null. -/
def nullable : {f : Form} → {α : Type} → Wire f α → Bool
  | _, _, .option _ => true
  | _, _, .iso layout _ _ _ _ => layout.nullable
  | _, _, _ => false

/-- The names of members. -/
def names : {f : Form} → {α : Type} → Wire f α → List String
  | _, _, .member name _ _ rest => name :: rest.names
  | _, _, _ => []

/-- Whether JSON tells all values of the layout apart. -/
def clear : {f : Form} → {α : Type} → Wire f α → Bool
  | _, _, .text | _, _, .bool | _, _, .word8 | _, _, .word16 | _, _, .word32 | _, _, .word64
  | _, _, .int64 | _, _, .choice _ _ _ | _, _, .done => true
  | _, _, .list item => item.clear
  | _, _, .option item => !item.nullable && item.clear
  | _, _, .record members => members.clear
  | _, _, .iso layout _ _ _ _ => layout.clear
  | _, _, .member name w _ rest => !rest.names.contains name && w.clear && rest.clear

/-- A layout that is not nullable never writes null. -/
theorem toJson_ne_null : {α : Type} → (w : Wire .value α) → w.nullable = false → (a : α) →
    w.toJson a ≠ Json.null
  | _, .option _, h, _ => absurd h (by simp [nullable])
  | _, .iso layout _ parts _ _, h, a => layout.toJson_ne_null h (parts a)
  | _, .text, _, _ | _, .bool, _, _ | _, .word8, _, _ | _, .word16, _, _ | _, .word32, _, _
  | _, .word64, _, _ | _, .int64, _, _ | _, .list _, _, _ | _, .choice _ _ _, _, _
  | _, .record _, _, _ => by simp [toJson, Json.ofNat, Json.ofInt]

/-! ### What else is read like it -/

/-- The second is the first with the members of its records in another order and with others among
them, whose names are not known to the layout. For the members of a record: they are the same, and
only their values are rearranged. -/
def Rearranged : {f : Form} → {α : Type} → Wire f α → f.Target → f.Target → Prop
  | _, _, .text, j, j' | _, _, .bool, j, j' | _, _, .word8, j, j' | _, _, .word16, j, j'
  | _, _, .word32, j, j' | _, _, .word64, j, j' | _, _, .int64, j, j'
  | _, _, .choice _ _ _, j, j' => j' = j
  | _, _, .list item, j, j' =>
    ∃ js js', j = .array js ∧ j' = .array js' ∧ List.Forall₂ item.Rearranged js js'
  | _, _, .option item, j, j' => j = .null ∧ j' = .null ∨ j ≠ .null ∧ item.Rearranged j j'
  | _, _, .record members, j, j' =>
    ∃ known known' others all, j = .object known ∧ j' = .object all ∧
      members.Rearranged known known' ∧
      (∀ m ∈ others, ∃ name, m.1 = some name ∧ name ∉ members.names) ∧
      all.Perm (known' ++ others)
  | _, _, .iso layout _ _ _ _, j, j' => layout.Rearranged j j'
  | _, _, .done, ms, ms' => ms = [] ∧ ms' = []
  | _, _, .member name w _ rest, ms, ms' =>
    ∃ v v' others others', ms = Json.member name v :: others ∧
      ms' = Json.member name v' :: others' ∧ w.Rearranged v v' ∧ rest.Rearranged others others'

/-- What is written may stay as it is. -/
theorem rearranged_refl (w : Wire f α) (a : α) : w.Rearranged (w.toJson a) (w.toJson a) := by
  induction w with
  | text | bool | word8 | word16 | word32 | word64 | int64 | choice names nodup small => rfl
  | list item ih =>
    refine ⟨_, _, rfl, rfl, ?_⟩
    induction a with
    | nil => exact .nil
    | cons x xs ihxs => exact .cons (ih x) ihxs
  | option item ih =>
    cases a with
    | none => exact Or.inl ⟨rfl, rfl⟩
    | some x =>
      -- A layout that is not clear may write null for a value too.
      by_cases hnull : item.toJson x = .null
      · exact Or.inl ⟨hnull, hnull⟩
      · exact Or.inr ⟨hnull, ih x⟩
  | record members ih =>
    exact ⟨_, _, [], _, rfl, rfl, ih a, by simp, by rw [List.append_nil]⟩
  | iso layout make parts parts_make make_parts ih => exact ih (parts a)
  | done => exact ⟨rfl, rfl⟩
  | member name w absent rest ihw ihrest =>
    obtain ⟨a, b⟩ := a
    exact ⟨_, _, _, _, rfl, rfl, ihw a, ihrest b⟩

/-- Only null is rearranged to null. -/
theorem Rearranged.ne_null : {α : Type} → (w : Wire .value α) → {j j' : Json} →
    w.Rearranged j j' → j ≠ Json.null → j' ≠ Json.null
  | _, .list _, _, _, h, _ => by
    obtain ⟨_, _, -, rfl, -⟩ := h
    exact Json.noConfusion
  | _, .option item, _, _, h, hne => by
    obtain ⟨rfl, -⟩ | ⟨-, hitem⟩ := h
    · exact absurd rfl hne
    · exact Rearranged.ne_null item hitem hne
  | _, .record _, _, _, h, _ => by
    obtain ⟨_, _, _, _, -, rfl, -⟩ := h
    exact Json.noConfusion
  | _, .iso layout _ _ _ _, _, _, h, hne => Rearranged.ne_null layout h hne
  | _, .text, _, _, h, hne | _, .bool, _, _, h, hne | _, .word8, _, _, h, hne
  | _, .word16, _, _, h, hne | _, .word32, _, _, h, hne | _, .word64, _, _, h, hne
  | _, .int64, _, _, h, hne | _, .choice _ _ _, _, _, h, hne => fun hnull => hne (h ▸ hnull)

/-- Every member of a record has a name that the layout knows. -/
theorem Rearranged.name_mem : {α : Type} → (w : Wire .members α) →
    {ms ms' : List (Option String × Json)} → w.Rearranged ms ms' →
    ∀ m ∈ ms', ∃ name, m.1 = some name ∧ name ∈ w.names
  | _, .done, _, _, h, m, hm => by
    rw [h.2] at hm
    exact absurd hm List.not_mem_nil
  | _, .member name _ _ rest, _, _, h, m, hm => by
    obtain ⟨_, v', _, others', -, rfl, -, hrest⟩ := h
    -- The member of this name stands first; the others are those of the rest of the layout.
    rcases List.mem_cons.mp hm with rfl | hm
    · exact ⟨name, rfl, List.mem_cons_self⟩
    · obtain ⟨name', hname', hmem⟩ := Rearranged.name_mem rest hrest m hm
      exact ⟨name', hname', List.mem_cons_of_mem name hmem⟩

/-- No member has a name that all members differ from. -/
theorem membersNamed_eq_nil {name : String} {ms : List (Option String × Json)}
    (h : ∀ m ∈ ms, m.1 ≠ some name) : Json.membersNamed name ms = [] :=
  List.filterMap_eq_nil_iff.mpr fun m hm => if_neg (h m hm)

/-- The first member is found under its name, and then those behind it. -/
theorem membersNamed_member_self (name : String) (v : Json) (ms : List (Option String × Json)) :
    Json.membersNamed name (Json.member name v :: ms) = v :: Json.membersNamed name ms := by
  simp [Json.membersNamed, Json.member]

/-- The first member is not found under another name. -/
theorem membersNamed_member_of_ne {name name' : String} (h : name ≠ name') (v : Json)
    (ms : List (Option String × Json)) :
    Json.membersNamed name' (Json.member name v :: ms) = Json.membersNamed name' ms := by
  simp [Json.membersNamed, Json.member, h]

section Among

variable {known others all : List (Option String × Json)} {names : List String}

/-- A name that is none of theirs is not found among members whose names are known. -/
theorem membersNamed_eq_nil_of_known (hknown : ∀ m ∈ known, ∃ name, m.1 = some name ∧ name ∈ names)
    {name : String} (hnot : name ∉ names) : Json.membersNamed name known = [] :=
  membersNamed_eq_nil fun m hm heq => by
    obtain ⟨name', hname', hmem⟩ := hknown m hm
    exact hnot (Option.some.inj (hname'.symm.trans heq) ▸ hmem)

/-- An object has the same members of each name as a list that starts with a member of a new name.
Then this name occurs once in it, whatever the order, and of the other names it has the same members
as the rest of the list. -/
theorem membersNamed_first (hknown : ∀ m ∈ known, ∃ name, m.1 = some name ∧ name ∈ names)
    {name : String} (hnot : name ∉ names) {v : Json}
    (h : ∀ name' ∈ name :: names,
      (Json.membersNamed name' all).Perm (Json.membersNamed name' (Json.member name v :: known))) :
    Json.membersNamed name all = [v] ∧ ∀ name' ∈ names,
      (Json.membersNamed name' all).Perm (Json.membersNamed name' known) := by
  constructor
  · have hperm := h name List.mem_cons_self
    rw [membersNamed_member_self, membersNamed_eq_nil_of_known hknown hnot] at hperm
    exact List.perm_singleton.mp hperm
  · intro name' hname'
    have hne : name ≠ name' := fun heq => hnot (heq ▸ hname')
    have hperm := h name' (List.mem_cons_of_mem name hname')
    rwa [membersNamed_member_of_ne hne] at hperm
/-- Every member of an object has a name that can be read if the known and the unknown ones have. -/
theorem isSome_of_perm (hknown : ∀ m ∈ known, ∃ name, m.1 = some name ∧ name ∈ names)
    (hothers : ∀ m ∈ others, ∃ name, m.1 = some name ∧ name ∉ names)
    (hperm : all.Perm (known ++ others)) : ∀ m ∈ all, m.1.isSome := by
  intro m hm
  rcases List.mem_append.mp (hperm.mem_iff.mp hm) with hm | hm
  · obtain ⟨name, hname, -⟩ := hknown m hm
    exact Option.isSome_iff_exists.mpr ⟨name, hname⟩
  · obtain ⟨name, hname, -⟩ := hothers m hm
    exact Option.isSome_iff_exists.mpr ⟨name, hname⟩

/-- Under a known name only known members are found, for none of the others has such a name. -/
theorem membersNamed_perm (hothers : ∀ m ∈ others, ∃ name, m.1 = some name ∧ name ∉ names)
    (hperm : all.Perm (known ++ others)) {name : String} (h : name ∈ names) :
    (Json.membersNamed name all).Perm (Json.membersNamed name known) := by
  have hnone : Json.membersNamed name others = [] := membersNamed_eq_nil fun m hm heq => by
    obtain ⟨name', hname', hnot⟩ := hothers m hm
    exact hnot (Option.some.inj (hname'.symm.trans heq) ▸ h)
  have hnamed : (Json.membersNamed name all).Perm (Json.membersNamed name (known ++ others)) :=
    hperm.filterMap _
  rwa [Json.membersNamed, Json.membersNamed, List.filterMap_append, ← Json.membersNamed,
    ← Json.membersNamed, ← Json.membersNamed, hnone, List.append_nil] at hnamed

end Among

/-- What is written for a value shows it, also rearranged. For the members of an object this is so
of every list that has the same members of each of their names. -/
def ShowsRearranged : {f : Form} → {α : Type} → Wire f α → α → Prop
  | .value, _, w, a => ∀ j, w.Rearranged (w.toJson a) j → w.Shows a j
  | .members, _, w, a => ∀ known, w.Rearranged (w.toJson a) known → ∀ ms,
    (∀ name ∈ w.names, (Json.membersNamed name ms).Perm (Json.membersNamed name known)) →
      w.Shows a (.named ms)

/-- What is written for a value of a clear layout shows that value, also rearranged. -/
theorem showsRearranged {w : Wire f α} (h : w.clear = true) (a : α) : w.ShowsRearranged a := by
  induction w with
  | text | bool | word8 | word16 | word32 | word64 | int64 | choice names nodup small =>
    exact fun _ hj => hj
  | list item ih =>
    rintro _ ⟨js, js', hjs, rfl, hall⟩
    obtain rfl := Json.array.inj hjs
    refine ⟨js', rfl, ?_⟩
    rw [List.forall₂_map_left_iff] at hall
    exact hall.imp fun x j hj => ih h x j hj
  | option item ih =>
    obtain ⟨hnull, hitem⟩ := Bool.and_eq_true_iff.mp h
    cases a with
    | none =>
      rintro j (⟨-, rfl⟩ | ⟨hne, -⟩)
      · rfl
      · exact absurd rfl hne
    | some x =>
      have hne := item.toJson_ne_null (by simpa using hnull) x
      -- What the option holds is not written as null, so it cannot be taken for none.
      rintro j (⟨heq, -⟩ | ⟨-, hj⟩)
      · exact absurd heq hne
      · exact ⟨Rearranged.ne_null item hj hne, ih hitem x j hj⟩
  | record members ih =>
    rintro _ ⟨known, known', others, all, hknown, rfl, hrearranged, hothers, hperm⟩
    obtain rfl := Json.object.inj hknown
    -- The reader looks members up by name, so it is enough that each name has the same members.
    exact ⟨all, rfl, isSome_of_perm (Rearranged.name_mem members hrearranged) hothers hperm,
      ih h a known' hrearranged all fun _ hname => membersNamed_perm hothers hperm hname⟩
  | iso layout make parts parts_make make_parts ih => exact fun j hj => ih h (parts a) j hj
  | done => exact fun _ _ ms _ => ⟨ms, rfl⟩
  | member name w absent rest ihw ihrest =>
    obtain ⟨a, b⟩ := a
    obtain ⟨hhead, hrest⟩ := Bool.and_eq_true_iff.mp h
    obtain ⟨hnew, hw⟩ := Bool.and_eq_true_iff.mp hhead
    have hnot : name ∉ rest.names := by simpa using hnew
    rintro _ ⟨v, v', known, known', hv, rfl, hv', hknown⟩ ms hms
    obtain ⟨hvalue, rfl⟩ := List.cons.inj hv
    obtain rfl := (Prod.mk.inj hvalue).2
    obtain ⟨hnamed, hothers⟩ := membersNamed_first (Rearranged.name_mem rest hknown) hnot hms
    exact ⟨ms, v', rfl, hnamed, ihw hw a v' hv', ihrest hrest b known' hknown ms hothers⟩

/-- A value of a clear layout is read back from its JSON, also rearranged. -/
theorem ofJson?_of_rearranged {w : Wire .value α} (h : w.clear = true) {a : α} {j : Json}
    (hj : w.Rearranged (w.toJson a) j) : w.ofJson? j = some a :=
  ofJson?_of_shows (showsRearranged h a j hj)

/-! ### Bytes -/

/-- What is written can be written as bytes: of numbers only integers, of texts only such. -/
def WritesWritten : {f : Form} → {α : Type} → Wire f α → α → Prop
  | .value, _, w, a => Json.Written (w.toJson a)
  | .members, _, w, a => ∀ m ∈ w.toJson a, m.1.isSome = true ∧ m.2.Written

/-- The digits of a number may be written. -/
theorem written_ofNat (n : Nat) : (Json.ofNat n).Written := by
  intro t ht
  rw [List.mem_singleton.mp ht]
  exact ⟨.ofNat n, rfl⟩

/-- What is written for a value of any layout can be written as bytes. -/
theorem writesWritten (w : Wire f α) (a : α) : w.WritesWritten a := by
  induction w with
  | text | choice names nodup small =>
    intro t ht
    rw [List.mem_singleton.mp ht]
    rfl
  | bool =>
    intro t ht
    rw [List.mem_singleton.mp ht]
    trivial
  | word8 | word16 | word32 | word64 => exact written_ofNat _
  | int64 =>
    intro t ht
    rw [List.mem_singleton.mp ht]
    exact ⟨a.toInt, rfl⟩
  | list item ih =>
    refine Json.written_array fun v hv => ?_
    obtain ⟨x, -, rfl⟩ := List.mem_map.mp hv
    exact ih x
  | option item ih =>
    cases a with
    | none =>
      intro t ht
      rw [List.mem_singleton.mp ht]
      trivial
    | some x => exact ih x
  | record members ih => exact Json.written_object (ih a)
  | iso layout make parts parts_make make_parts ih => exact ih (parts a)
  | done => exact fun m hm => absurd hm (by simp [toJson])
  | member name w absent rest ihw ihrest =>
    obtain ⟨a, b⟩ := a
    intro m hm
    rcases List.mem_cons.mp hm with rfl | hm
    · exact ⟨rfl, ihw a⟩
    · exact ihrest b m hm

/-- A value of a clear layout is read back from the bytes of its JSON. -/
theorem parse?_render_toJson {w : Wire .value α} (h : w.clear = true) (a : α) :
    (Json.parse? (w.toJson a).render).bind w.ofJson? = some a := by
  have hwritten : Json.Written (w.toJson a) := w.writesWritten a
  rw [Json.parse?_render hwritten, Option.bind_some, ofJson?_of_rearranged h (w.rearranged_refl a)]

end Wire

end CommandMesh
