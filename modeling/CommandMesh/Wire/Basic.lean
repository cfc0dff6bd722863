/-!
# `CommandMesh.Wire.Basic`: descriptions of data on the wire

A `Wire` says how the values of a type are laid out, once for every format: `Wire.Binary` and
`Wire.Json` read and write any described type by recursion on its description. A record is described
member by member. A type of the library is described by `iso`, which maps it to the layout and back
without loss.

The index `Form` tells whole values from the members of a record, so that members can stand nowhere
but inside a record and one function serves both.

A description carries what the laws of the formats need. The names of a choice differ from each
other, or reading one of them would not tell its position, and there are fewer than 256 of them, so
a position fits into any word. The two equations of `iso` say that the type and its layout have the
same values, so a law that is proved of the layout holds of the type. With these in the description,
the laws in `Proofs.Wire` are inductions on it, one case for each constructor, and hold of every
type that is described or will be.

Nothing here limits lengths. What does not fit into a length prefix is a matter of the binary format
and is named there.
-/

set_option autoImplicit false

namespace CommandMesh

/-- Whether a description is of a value or of the members of a record. -/
inductive Form where
  | value
  | members

/-- The layout of the values of a type. -/
inductive Wire : Form → Type → Type 1 where
  | text : Wire .value String
  | bool : Wire .value Bool
  | word8 : Wire .value UInt8
  | word16 : Wire .value UInt16
  | word32 : Wire .value UInt32
  | word64 : Wire .value UInt64
  | int64 : Wire .value Int64
  | list {α : Type} (item : Wire .value α) : Wire .value (List α)
  | option {α : Type} (item : Wire .value α) : Wire .value (Option α)
  /-- One of some names, by its position. -/
  | choice (names : List String) (nodup : names.Nodup) (small : names.length < 256) :
      Wire .value (Fin names.length)
  | record {α : Type} (members : Wire .members α) : Wire .value α
  /-- A type that is laid out like another one. -/
  | iso {α β : Type} (layout : Wire .value α) (make : α → β) (parts : β → α)
      (parts_make : ∀ a, parts (make a) = a) (make_parts : ∀ b, make (parts b) = b) : Wire .value β
  /-- No further member. -/
  | done : Wire .members Unit
  /-- A member and those after it. `absent` is its value where the input leaves it out. -/
  | member {α β : Type} (name : String) (w : Wire .value α) (absent : Option α)
      (rest : Wire .members β) : Wire .members (α × β)

namespace Wire

/-- A member that must be present. -/
abbrev need {α β : Type} (name : String) (w : Wire .value α) (rest : Wire .members β) :
    Wire .members (α × β) := .member name w none rest

/-- A member that has a value of its own when it is left out. -/
abbrev withDefault {α β : Type} (name : String) (w : Wire .value α) (d : α)
    (rest : Wire .members β) : Wire .members (α × β) := .member name w (some d) rest

end Wire

end CommandMesh
