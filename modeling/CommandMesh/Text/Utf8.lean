/-!
# `CommandMesh.Text.Utf8`: texts as bytes

`bytes` and `ofBytes?` go between a text and its UTF-8 form as a list. They are inverse to each
other on the byte sequences that are valid: `ofBytes?_eq_some_iff`.

A text is valid UTF-8 by its type, so `bytes` needs no condition and everything that a reader has to
refuse is refused in `ofBytes?`: bytes that start no character, characters that are cut short or
written with too many bytes, and surrogates.
-/

set_option autoImplicit false

namespace CommandMesh.Text

/-- The UTF-8 form of a text. -/
def bytes (s : String) : List UInt8 := s.toUTF8.data.toList

/-- The text with this UTF-8 form, if the bytes are valid UTF-8. -/
def ofBytes? (bs : List UInt8) : Option String := String.fromUTF8? ⟨bs.toArray⟩

/-- Reading accepts exactly the UTF-8 form of the text it gives. -/
theorem ofBytes?_eq_some_iff {bs : List UInt8} {s : String} :
    ofBytes? bs = some s ↔ bs = bytes s := by
  unfold ofBytes? String.fromUTF8? bytes
  constructor
  · intro h
    split at h
    · simp only [Option.some.injEq] at h
      subst h
      rfl
    · exact absurd h (by simp)
  · intro h
    subst h
    have hs : (⟨s.toUTF8.data.toList.toArray⟩ : ByteArray) = s.toUTF8 := by simp
    rw [hs]
    exact dif_pos s.isValidUTF8

/-- A text is read back from its own bytes. -/
@[simp] theorem ofBytes?_bytes (s : String) : ofBytes? (bytes s) = some s :=
  ofBytes?_eq_some_iff.2 rfl

end CommandMesh.Text
