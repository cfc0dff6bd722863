import CommandMesh.Proofs.Wire.Json

/-!
# `CommandMesh.Proofs.Wire.Overlay`: objects that name some of the parts

A file of settings names some of them and leaves the others out. Every part of a value has a path:
the names of the members that lead to it. A `Selection` chooses some of the paths. `Wire.Holds w S a
j` says that the JSON value `j` holds the selected parts of `a` and nothing else that the layout
knows. `Wire.overlay w S a d` is the value that agrees with `a` on the selected parts and with `d`
on all others.

A part is what is not a record: a word, a text, a list, an option. A record is taken apart, so that
selecting one member of an inner record leaves its other members at their defaults and does not
reset the whole record. An inner record of which nothing is selected may be there with no parts or
be left out; both are read alike.

What a reader takes for a member that is left out is written into the layout, next to the member.
`Wire.Defaults w d` says that these values are those of `d`, at every depth; for a layout of
settings it is checked once, for the one value of the defaults. It cannot be left out: a member
whose own default disagrees with the default of the record that holds it would make the result
depend on whether the record is there.

The order of the members plays no part, and neither do members of unknown names, as in
`CommandMesh.Proofs.Wire.Json`, from which the way through the members of a record is taken: a
statement about every list that has the same members under each name. A known member that occurs
twice is refused, wherever it stands, also inside a list or under a member that could be left out.

The theorems:

* `holds_part`: whatever is selected, there is an object that holds just that.
* `ofJson?_of_holds`: a reader takes an object that holds some parts of a value for that value laid
  over the default, member by member and not object by object.
* `ofJson?_named_perm`, `ofJson?_object_perm`: a reader takes members in any order.
* `ofJson?_of_repeats`: a reader refuses an object that names a known member twice, at any depth.
-/

set_option autoImplicit false

namespace CommandMesh

/-- A choice of parts, by the names of the members that lead to them from the outside in. -/
abbrev Selection : Type := List String → Bool

/-- What is selected below the member. -/
def Selection.under (S : Selection) (name : String) : Selection := fun path => S (name :: path)

namespace Wire

variable {f : Form} {α : Type}

/-! ### Some of the parts -/

/-- Whether some part of the layout is selected. -/
def selects : {f : Form} → {α : Type} → Wire f α → Selection → Bool
  | _, _, .record members, S => members.selects S
  | _, _, .iso layout _ _ _ _, S => layout.selects S
  | _, _, .done, _ => false
  | _, _, .member name w _ rest, S => w.selects (S.under name) || rest.selects S
  | _, _, _, S => S []

/-- The value with its selected parts from `a` and the others from `d`. -/
def overlay : {f : Form} → {α : Type} → Wire f α → Selection → (a d : α) → α
  | _, _, .record members, S, a, d => members.overlay S a d
  | _, _, .iso layout make parts _ _, S, a, d => make (layout.overlay S (parts a) (parts d))
  | _, _, .done, _, _, _ => ()
  | _, _, .member name w _ rest, S, (a, as), (d, ds) =>
    (w.overlay (S.under name) a d, rest.overlay S as ds)
  | _, _, _, S, a, d => if S [] then a else d

/-- Where nothing is selected the value is the one underneath. -/
theorem overlay_of_not_selects {w : Wire f α} {S : Selection} (h : w.selects S = false) (a d : α) :
    w.overlay S a d = d := by
  -- Whatever is below a member has a selection of its own, so the selection is not fixed.
  induction w generalizing S with
  | text | bool | word8 | word16 | word32 | word64 | int64 | list | option | choice =>
    have hnot : S [] = false := h
    show (if S [] then a else d) = d
    rw [hnot, if_neg Bool.false_ne_true]
  | record members ih => exact ih h a d
  -- The type and its layout have the same values, so nothing is lost on the way there and back.
  | iso layout make parts parts_make make_parts ih =>
    rw [overlay, ih h (parts a) (parts d), make_parts]
  | done => rfl
  | member name w absent rest ihw ihrest =>
    obtain ⟨hw, hrest⟩ := Bool.or_eq_false_iff.mp h
    exact Prod.ext (ihw hw a.1 d.1) (ihrest hrest a.2 d.2)

/-- The JSON value, or the members of an object, hold the selected parts of `a` and no other part.
The members of each object may stand in any order, and others of unknown names may be among them. A
record of which nothing is selected may be there, without parts, or be left out. -/
def Holds : {f : Form} → {α : Type} → Wire f α → Selection → α → f.Target → Prop
  | _, _, .record members, S, a, j =>
    ∃ known others all, j = .object all ∧ members.Holds S a known ∧
      (∀ m ∈ others, ∃ name, m.1 = some name ∧ name ∉ members.names) ∧
      all.Perm (known ++ others)
  | _, _, .iso layout _ parts _ _, S, b, j => layout.Holds S (parts b) j
  | _, _, .done, _, _, ms => ms = []
  | _, _, .member name w _ rest, S, (a, as), ms =>
    (∃ v ms', ms = Json.member name v :: ms' ∧ w.Holds (S.under name) a v ∧ rest.Holds S as ms') ∨
      w.selects (S.under name) = false ∧ rest.Holds S as ms
  | .value, _, w, S, a, j => S [] = true ∧ w.Rearranged (w.toJson a) j

/-- The object that holds the selected parts in the order of the layout. -/
def part : {f : Form} → {α : Type} → Wire f α → Selection → α → f.Target
  | _, _, .record members, S, a => .object (members.part S a)
  | _, _, .iso layout _ parts _ _, S, b => layout.part S (parts b)
  | _, _, .done, _, _ => []
  | _, _, .member name w _ rest, S, (a, as) =>
    if w.selects (S.under name) then Json.member name (w.part (S.under name) a) :: rest.part S as
    else rest.part S as
  | .value, _, w, _, a => w.toJson a

/-- Whether the layout is a record, so that there is an object for it of which nothing is
selected. -/
def isRecord : {f : Form} → {α : Type} → Wire f α → Bool
  | _, _, .record _ => true
  | _, _, .iso layout _ _ _ _ => layout.isRecord
  | _, _, .done | _, _, .member _ _ _ _ => true
  | _, _, _ => false

/-- The members of a record make an object, also where nothing of them is selected. -/
theorem isRecord_of_members (w : Wire .members α) : w.isRecord = true := by
  cases w <;> rfl

/-- Whatever is selected, there is an object that holds just that. -/
theorem holds_part {w : Wire f α} {S : Selection} (h : w.isRecord = true ∨ w.selects S = true)
    (a : α) : w.Holds S a (w.part S a) := by
  induction w generalizing S with
  | text | bool | word8 | word16 | word32 | word64 | int64 | list | option | choice =>
    have hS : S [] = true := h.resolve_left Bool.false_ne_true
    exact ⟨hS, rearranged_refl _ a⟩
  | record members ih =>
    -- Members of no known name are allowed and none are needed.
    have hmembers := ih (S := S) (Or.inl members.isRecord_of_members) a
    exact ⟨_, [], _, rfl, hmembers, by simp, by rw [List.append_nil]⟩
  | iso layout make parts parts_make make_parts ih => exact ih h (parts a)
  | done => rfl
  | member name w absent rest ihw ihrest =>
    obtain ⟨a, as⟩ := a
    have hrest := ihrest (S := S) (Or.inl rest.isRecord_of_members) as
    -- A member is written only if something below it is selected.
    by_cases hw : w.selects (S.under name) = true
    · rw [part, if_pos hw]
      exact Or.inl ⟨_, _, rfl, ihw (Or.inr hw) a, hrest⟩
    · rw [part, if_neg hw]
      exact Or.inr ⟨Bool.eq_false_iff.mpr hw, hrest⟩

/-- Every member that is held has a name that the layout knows. -/
theorem Holds.name_mem : {α : Type} → (w : Wire .members α) → {S : Selection} → {a : α} →
    {ms : List (Option String × Json)} → w.Holds S a ms →
    ∀ m ∈ ms, ∃ name, m.1 = some name ∧ name ∈ w.names
  | _, .done, _, _, _, h, m, hm => by
    rw [show _ = [] from h] at hm
    exact absurd hm List.not_mem_nil
  | _, .member name _ _ rest, S, (_, as), _, h, m, hm => by
    -- The members after the first are those of the rest, whether or not the first was held.
    have htail {ms : List (Option String × Json)} (hrest : rest.Holds S as ms) (hm : m ∈ ms) :
        ∃ name', m.1 = some name' ∧ name' ∈ name :: rest.names := by
      obtain ⟨name', hname', hmem⟩ := Holds.name_mem rest hrest m hm
      exact ⟨name', hname', List.mem_cons_of_mem name hmem⟩
    obtain ⟨v, ms', rfl, -, hrest⟩ | ⟨-, hrest⟩ := h
    · rcases List.mem_cons.mp hm with rfl | hm
      · exact ⟨name, rfl, List.mem_cons_self⟩
      · exact htail hrest hm
    · exact htail hrest hm

/-- A name that the layout does not know is not among the members that are held. -/
theorem Holds.membersNamed_eq_nil {w : Wire .members α} {S : Selection} {a : α}
    {ms : List (Option String × Json)} (h : w.Holds S a ms) {name : String}
    (hnot : name ∉ w.names) : Json.membersNamed name ms = [] :=
  membersNamed_eq_nil_of_known (Holds.name_mem w h) hnot

/-! ### One member at a time -/

/-- What a reader takes for a member, given all members of its name. -/
def memberOf? (w : Wire .value α) (absent : Option α) : List Json → Option α
  | [] => absent <|> w.implied?
  | [v] => w.ofJson? v
  | _ => none

/-- A reader of members looks up the first and reads the rest from the same object. -/
theorem ofJson?_member {β : Type} (name : String) (w : Wire .value α) (absent : Option α)
    (rest : Wire .members β) (ms : List (Option String × Json)) :
    (Wire.member name w absent rest).ofJson? (.named ms) =
      (w.memberOf? absent (Json.membersNamed name ms)).bind fun a =>
        (rest.ofJson? (.named ms)).bind fun b => some (a, b) := by
  rw [ofJson?]
  rcases Json.membersNamed name ms with _ | ⟨v, _ | ⟨v', vs⟩⟩ <;> rfl

/-- A reader of a type that is laid out like another one reads that one. -/
theorem ofJson?_iso {β : Type} (layout : Wire .value α) (make : α → β) (parts : β → α)
    (parts_make : ∀ a, parts (make a) = a) (make_parts : ∀ b, make (parts b) = b) (j : Json) :
    (Wire.iso layout make parts parts_make make_parts).ofJson? j = (layout.ofJson? j).map make :=
  rfl

/-- A reader of a record reads the members of an object, if every name in it is a text. -/
theorem ofJson?_object (members : Wire .members α) (ms : List (Option String × Json)) :
    (Wire.record members).ofJson? (.object ms) =
      if ms.all fun m => m.1.isSome then members.ofJson? (.named ms) else none := rfl

/-- One member is in no order, and more than one are refused in every order. -/
theorem memberOf?_perm {w : Wire .value α} {absent : Option α} {vs vs' : List Json}
    (h : vs.Perm vs') : w.memberOf? absent vs = w.memberOf? absent vs' := by
  match vs, vs' with
  | [], _ => rw [h.nil_eq]
  | [v], _ => rw [List.perm_singleton.mp h.symm]
  -- Rows of different length are in no order of each other.
  | _ :: _ :: _, [] | _ :: _ :: _, [_] => simpa using h.length_eq
  | _ :: _ :: _, _ :: _ :: _ => rfl

/-- A member that is there twice is refused. -/
theorem memberOf?_of_two_le {w : Wire .value α} {absent : Option α} {vs : List Json}
    (h : 2 ≤ vs.length) : w.memberOf? absent vs = none := by
  match vs with
  | [] | [_] => simp at h
  | _ :: _ :: _ => rfl

/-- A reader of members takes them in any order. -/
theorem ofJson?_named_perm : {α : Type} → (w : Wire .members α) →
    {ms ms' : List (Option String × Json)} → ms.Perm ms' →
      w.ofJson? (.named ms) = w.ofJson? (.named ms')
  | _, .done, _, _, _ => rfl
  | _, .member name w absent rest, ms, ms', h => by
    have hnamed : (Json.membersNamed name ms).Perm (Json.membersNamed name ms') := h.filterMap _
    rw [ofJson?_member, ofJson?_member, memberOf?_perm hnamed, ofJson?_named_perm rest h]

/-- A reader of a record takes its members in any order. -/
theorem ofJson?_object_perm {members : Wire .members α} {ms ms' : List (Option String × Json)}
    (h : ms.Perm ms') :
    (Wire.record members).ofJson? (.object ms) = (Wire.record members).ofJson? (.object ms') := by
  have hall : (ms.all fun m => m.1.isSome) = ms'.all fun m => m.1.isSome := by
    rw [Bool.eq_iff_iff, List.all_eq_true, List.all_eq_true]
    exact ⟨fun hms m hm => hms m (h.mem_iff.mpr hm), fun hms m hm => hms m (h.mem_iff.mp hm)⟩
  rw [ofJson?_object, ofJson?_object, hall, ofJson?_named_perm members h]

/-! ### Laid over the defaults -/

/-- `d` is the value of which every part is left out: each member that may be left out stands for
what `d` has there, and so it is in the records of the record. -/
def Defaults : {f : Form} → {α : Type} → Wire f α → α → Prop
  | _, _, .record members, d => members.Defaults d
  | _, _, .iso layout _ parts _ _, d => layout.Defaults (parts d)
  | _, _, .member _ w absent rest, (d, ds) => absent = some d ∧ w.Defaults d ∧ rest.Defaults ds
  | _, _, _, _ => True

/-- A reader lays what is held over the default. For the members of an object this is so of every
list that has the same members of each of their names. -/
def ReadsHeld : {f : Form} → {α : Type} → Wire f α → Selection → (a d : α) → Prop
  | .value, _, w, S, a, d => ∀ j, w.Holds S a j → w.ofJson? j = some (w.overlay S a d)
  | .members, _, w, S, a, d => ∀ known, w.Holds S a known → ∀ ms,
    (∀ name ∈ w.names, (Json.membersNamed name ms).Perm (Json.membersNamed name known)) →
      w.ofJson? (.named ms) = some (w.overlay S a d)

/-- A layout that tells its values apart reads what is held over its default. -/
theorem readsHeld {w : Wire f α} (h : w.clear = true) {d : α} (hd : w.Defaults d) (S : Selection)
    (a : α) : w.ReadsHeld S a d := by
  induction w generalizing S with
  -- A part that is not a record is held as a whole, so it is selected.
  | text | bool | word8 | word16 | word32 | word64 | int64 | list | option | choice =>
    rintro j ⟨hS, hj⟩
    rw [ofJson?_of_rearranged h hj]
    show some a = some (if S [] then a else d)
    rw [if_pos hS]
  | record members ih =>
    rintro _ ⟨known, others, all, rfl, hheld, hothers, hperm⟩
    -- The reader looks at all names of the object first, known or not.
    have hnames : (all.all fun m => m.1.isSome) = true :=
      List.all_eq_true.mpr (isSome_of_perm (Holds.name_mem members hheld) hothers hperm)
    rw [ofJson?_object, if_pos hnames]
    exact ih h hd S a known hheld all fun _ hname => membersNamed_perm hothers hperm hname
  | iso layout make parts parts_make make_parts ih =>
    intro j hj
    rw [ofJson?, ih h hd S (parts a) j hj, Option.map_some]
    rfl
  | done => exact fun _ _ _ _ => rfl
  | member name w absent rest ihw ihrest =>
    obtain ⟨a, as⟩ := a
    obtain ⟨d, ds⟩ := d
    obtain ⟨rfl, hw, hrest⟩ := hd
    obtain ⟨hhead, hclear⟩ := Bool.and_eq_true_iff.mp h
    obtain ⟨hnew, hwclear⟩ := Bool.and_eq_true_iff.mp hhead
    have hnot : name ∉ rest.names := by simpa using hnew
    rintro known (⟨v, known, rfl, hv, hknown⟩ | ⟨hnone, hknown⟩) ms hms
    · obtain ⟨hnamed, hothers⟩ := membersNamed_first (Holds.name_mem rest hknown) hnot hms
      have hread := ihrest hclear hrest S as known hknown ms hothers
      rw [ofJson?_member, hnamed, memberOf?, ihw hwclear hw _ a v hv, hread]
      rfl
    · -- The member is left out, and nothing below it is selected.
      have hnamed := hms name List.mem_cons_self
      rw [hknown.membersNamed_eq_nil hnot] at hnamed
      have hread := ihrest hclear hrest S as known hknown ms fun name' hname' =>
        hms name' (List.mem_cons_of_mem name hname')
      rw [ofJson?_member, List.perm_nil.mp hnamed, memberOf?, hread, overlay,
        overlay_of_not_selects hnone a d]
      rfl

/-- A reader takes an object that holds some parts of a value for that value laid over the
default. -/
theorem ofJson?_of_holds {w : Wire .value α} (h : w.clear = true) {d : α} (hd : w.Defaults d)
    {S : Selection} {a : α} {j : Json} (hj : w.Holds S a j) :
    w.ofJson? j = some (w.overlay S a d) :=
  readsHeld h hd S a j hj

/-! ### Members that are named twice -/

/-- Some record in the JSON value has a member that the layout knows and that occurs twice. -/
def Repeats : {f : Form} → {α : Type} → Wire f α → f.Target → Prop
  | _, _, .list item, j => ∃ js, j = .array js ∧ ∃ v ∈ js, item.Repeats v
  | _, _, .option item, j => j ≠ .null ∧ item.Repeats j
  | _, _, .record members, j => ∃ ms, j = .object ms ∧ members.Repeats ms
  | _, _, .iso layout _ _ _ _, j => layout.Repeats j
  | _, _, .member name w _ rest, ms =>
    2 ≤ (Json.membersNamed name ms).length ∨ (∃ v ∈ Json.membersNamed name ms, w.Repeats v) ∨
      rest.Repeats ms
  | _, _, _, _ => False

/-- A reader gives up: on a value, or on the members of an object. -/
def Refuses : {f : Form} → {α : Type} → Wire f α → f.Target → Prop
  | .value, _, w, j => w.ofJson? j = none
  | .members, _, w, ms => w.ofJson? (.named ms) = none

/-- A reader gives up on what has a member twice, in a value and among the members of an object. -/
theorem refuses_of_repeats {w : Wire f α} {j : f.Target} (h : w.Repeats j) : w.Refuses j := by
  induction w with
  | text | bool | word8 | word16 | word32 | word64 | int64 | choice | done => exact h.elim
  | list item ih =>
    obtain ⟨js, rfl, v, hv, hrepeats⟩ := h
    -- One item that cannot be read is enough to give the list up.
    obtain ⟨before, after, rfl⟩ := List.append_of_mem hv
    show (before ++ v :: after).mapM item.ofJson? = none
    simp [List.mapM_append, List.mapM_cons, show item.ofJson? v = none from ih hrepeats]
  | option item ih =>
    obtain ⟨hnull, hrepeats⟩ := h
    show (Wire.option item).ofJson? j = none
    rw [ofJson?_option hnull, show item.ofJson? j = none from ih hrepeats, Option.map_none]
  | record members ih =>
    obtain ⟨ms, rfl, hrepeats⟩ := h
    show (if ms.all (·.1.isSome) then members.ofJson? (.named ms) else none) = none
    rw [show members.ofJson? (.named ms) = none from ih hrepeats, ite_self]
  | iso layout make parts parts_make make_parts ih =>
    show (layout.ofJson? j).map make = none
    rw [show layout.ofJson? j = none from ih h, Option.map_none]
  | member name w absent rest ihw ihrest =>
    show ofJson? (.member name w absent rest) (.named j) = none
    rw [ofJson?_member]
    rcases h with htwice | ⟨v, hv, hrepeats⟩ | hrepeats
    · rw [memberOf?_of_two_le htwice, Option.bind_none]
    · -- The member with the repetition is read, or it is itself there twice.
      by_cases htwice : 2 ≤ (Json.membersNamed name j).length
      · rw [memberOf?_of_two_le htwice, Option.bind_none]
      · obtain ⟨v', hnamed⟩ : ∃ v', Json.membersNamed name j = [v'] :=
          List.length_eq_one_iff.mp (by have := List.length_pos_of_mem hv; omega)
        obtain rfl : v = v' := by rwa [hnamed, List.mem_singleton] at hv
        rw [hnamed, memberOf?, show w.ofJson? v = none from ihw hrepeats, Option.bind_none]
    · rw [show rest.ofJson? (.named j) = none from ihrest hrepeats]
      exact Option.bind_fun_none _

/-- A reader refuses an object that names a known member twice, at any depth. -/
theorem ofJson?_of_repeats {w : Wire .value α} {j : Json} (h : w.Repeats j) : w.ofJson? j = none :=
  refuses_of_repeats h

end Wire

end CommandMesh
