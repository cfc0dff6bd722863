import CommandMesh.Proofs.Wire.Binary
import CommandMesh.Proofs.Wire.Json
import CommandMesh.Wire.Catalogue

/-!
# `CommandMesh.Proofs.Wire.Payload`: payloads arrive as they were sent

A message has a body of bytes, and the two ends of an exchange agree on a format and a layout. What
a format `Carries` is read as it was written. JSON carries every value of a layout that tells them
apart, and binary those that are not too long. A layout is `supported` if this holds in both formats
and no value is without bytes; all layouts that hosts know by name are, which is checked once for
the whole catalogue.

That no value is without bytes matters because a message without a body is one without a payload: if
some value were written as no bytes, it could not be told from no value. In JSON this holds of every
layout, and in binary of those in which some part takes a byte.

The two formats differ in what else they read. JSON has many spellings of one value: white space,
escapes, members in any order and members that the layout does not know. All of them are read as the
same value. Binary has exactly one spelling, and bytes after a value are left alone, so that what is
written for one value is never the beginning of what is written for another. Neither format is
assumed to be told which value to expect; the layout is the same on both sides, and what happens
when it is not is not a subject here.

The theorems:

* `supported_of_named?`: a layout that is found by its name is supported.
* `read_write`: what is written for a value is read as that value, in either format.
* `write_ne_nil`: a payload is not empty, so an empty body means that there is none.
* `json_restores_values`: JSON is read back however it is spelt, with the members of its objects in
  any order and unknown ones among them.
* `binary_is_prefix_code`: binary has one spelling for each value, and none starts with another.
-/

set_option autoImplicit false

namespace CommandMesh

namespace Wire

variable {α : Type}

/-- Whether JSON tells the values of the layout apart, and each of them takes a byte in binary. -/
def supported (w : Wire .value α) : Bool := w.clear && w.occupies

/-- All layouts that hosts know by name are supported, as their descriptions tell. -/
theorem supported_catalogue :
    (plain ++ messages ++ settings).all (fun t => t.2.wire.supported) = true := by
  decide +kernel

/-- A layout that is found by its name is supported. -/
theorem supported_of_named? {name : String} {t : TypedWire} (h : named? name = some t) :
    t.wire.supported = true := by
  obtain ⟨before, after, hsplit, -⟩ := List.lookup_eq_some_iff.mp h
  have hmem : (name, t) ∈ plain ++ messages ++ settings := by
    rw [hsplit]
    exact List.mem_append_right _ List.mem_cons_self
  exact List.all_eq_true.mp supported_catalogue _ hmem

end Wire

namespace PayloadFormat

variable {α : Type} {w : Wire .value α}

/-- The format can hold the value: JSON if the layout is clear, and binary if no text or list of it
is too long for its length. -/
def Carries (format : PayloadFormat) (w : Wire .value α) (a : α) : Prop :=
  match format with
  | .json => w.clear = true
  | .binary => w.Fits a

/-- Of a supported layout, both formats carry every value that is not too long for binary. -/
theorem carries_of_supported {format : PayloadFormat} (hw : w.supported = true) {a : α}
    (ha : format = .binary → w.Fits a) : format.Carries w a := by
  cases format with
  | json => exact (Bool.and_eq_true_iff.mp hw).1
  | binary => exact ha rfl

/-- What is written for a value is read as that value. -/
theorem read_write {format : PayloadFormat} {a : α} (ha : format.Carries w a) :
    format.read w (format.write w a) = .ok a := by
  have hread : format.read? w (format.write w a) = some a := by
    cases format with
    | json => exact Wire.parse?_render_toJson ha a
    | binary =>
      have hdecode := w.decode?_encode (a := a) ha []
      rw [List.append_nil] at hdecode
      simp only [read?, write, hdecode, Option.map_some]
  rw [read, hread]

/-- A value has bytes in JSON. -/
theorem render_ne_nil {v : Json} (h : v.Written) : v.render ≠ [] := by
  -- A value has a token, and a token has a byte.
  obtain ⟨t, ts, htokens, -⟩ := (Json.reads v).head
  have ht : t.Written := h t (by rw [htokens]; exact List.mem_cons_self)
  obtain ⟨b, bs, hbytes, -⟩ := ht.speltAs.head
  rw [Json.render, htokens, List.flatMap_cons, hbytes]
  exact List.cons_ne_nil _ _

/-- A payload is not empty, unless in binary there is nothing to write. -/
theorem write_ne_nil {format : PayloadFormat} (hw : format = .binary → w.occupies = true) (a : α) :
    format.write w a ≠ [] := by
  cases format with
  | json => exact render_ne_nil (w.writesWritten a)
  | binary => exact Wire.encode_ne_nil (hw rfl) a

/-! ### Other spellings in JSON -/

/-- A reader of JSON gets the value from every spelling of its JSON, rearranged or not: white space
between the tokens, each text and number in any way that JSON has for it, the members of an object
in any order, and others of unknown names among them. -/
theorem read_json_of_spells {w : Wire .value α} (hw : w.clear = true) {a : α} {j : Json}
    (hj : w.Rearranged (w.toJson a) j) {bs : List UInt8} (hbs : Json.Spells j.tokens bs) :
    json.read w bs = .ok a := by
  have hread : json.read? w bs = some a := by
    rw [read?, Json.parse?_spells hbs, Option.bind_some, Wire.ofJson?_of_rearranged hw hj]
  rw [read, hread]

/-- JSON restores every value of the layouts that hosts know by name, and of every other layout that
tells its values apart: from the bytes that are written for it, and from every other spelling of
them with its members rearranged. -/
theorem json_restores_values :
    (∀ name t, Wire.named? name = some t → t.wire.clear = true) ∧
      ∀ {α : Type} (w : Wire .value α), w.clear = true → ∀ a : α,
        json.read w (json.write w a) = .ok a ∧
          ∀ j, w.Rearranged (w.toJson a) j → ∀ bs, Json.Spells j.tokens bs →
            json.read w bs = .ok a := by
  refine ⟨fun name t h => ?_, fun w hw a => ⟨read_write hw, fun j hj bs hbs => ?_⟩⟩
  · exact (Bool.and_eq_true_iff.mp (Wire.supported_of_named? h)).1
  · exact read_json_of_spells hw hj hbs

/-! ### The one spelling in binary -/

/-- What is read as a value in the binary format are the bytes of that value and whatever
follows. -/
theorem read_binary_eq_ok_iff (w : Wire .value α) {bs : List UInt8} {a : α} :
    binary.read w bs = .ok a ↔ w.Fits a ∧ binary.write w a <+: bs := by
  -- The rest of the bytes is dropped, so all that is left of it is that there is one.
  have hread : binary.read w bs = .ok a ↔ ∃ rest, w.decode? bs = some (a, rest) := by
    simp only [read, read?]
    cases w.decode? bs with
    | none => simp
    | some x => simp [Prod.ext_iff]
  rw [hread]
  constructor
  · rintro ⟨rest, hrest⟩
    obtain ⟨hfits, rfl⟩ := w.decode?_eq_some_iff.mp hrest
    exact ⟨hfits, List.prefix_append _ _⟩
  · rintro ⟨hfits, rest, rfl⟩
    exact ⟨rest, w.decode?_eq_some_iff.mpr ⟨hfits, rfl⟩⟩

/-- The binary format is a prefix code. Exactly the values that fit, which are all that a machine
can hold, are read back, whatever bytes follow them. Bytes that are read as a value start with what
is written for it, so no value has the bytes of another at its start. -/
theorem binary_is_prefix_code (w : Wire .value α) :
    (∀ (a : α) (rest : List UInt8), binary.read w (binary.write w a ++ rest) = .ok a ↔ w.Fits a) ∧
      (∀ (bs : List UInt8) (a : α), binary.read w bs = .ok a → binary.write w a <+: bs) ∧
      ∀ a b : α, w.Fits a → w.Fits b → binary.write w a <+: binary.write w b → a = b := by
  refine ⟨fun a rest => ?_, fun bs a h => ((read_binary_eq_ok_iff w).mp h).2, fun a b ha hb h => ?_⟩
  · rw [read_binary_eq_ok_iff]
    exact and_iff_left (List.prefix_append _ _)
  · -- The bytes of the longer one are read as both.
    have hreada := (read_binary_eq_ok_iff w).mpr ⟨ha, h⟩
    have hreadb := (read_binary_eq_ok_iff w).mpr ⟨hb, List.prefix_rfl⟩
    exact Except.ok.inj (hreada.symm.trans hreadb)

end PayloadFormat

end CommandMesh
