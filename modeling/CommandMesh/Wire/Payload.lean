import CommandMesh.Failure
import CommandMesh.Wire.Binary
import CommandMesh.Wire.Json

/-!
# `CommandMesh.Wire.Payload`: payloads in one of two formats

Nodes exchange payloads as bytes. `PayloadFormat` chooses the format; reading a payload either gives
a value or fails as a whole. The binary format ignores bytes after the value, JSON allows white
space only.

The format is a setting of a node and does not travel with a message, so the nodes of a mesh have to
agree on it. What is wrong with a payload is not told: the failure says that it is malformed, in
either format, and why is left out of the model.
-/

set_option autoImplicit false

namespace CommandMesh

/-- The format of payloads. -/
inductive PayloadFormat where
  | json
  | binary
deriving DecidableEq

namespace PayloadFormat

/-- Writes a payload. -/
def write {α : Type} (format : PayloadFormat) (w : Wire .value α) (a : α) : List UInt8 :=
  match format with
  | .json => (w.toJson a).render
  | .binary => w.encode a

/-- Reads a payload, if the bytes are one. -/
def read? {α : Type} (format : PayloadFormat) (w : Wire .value α) (bs : List UInt8) : Option α :=
  match format with
  | .json => (Json.parse? bs).bind w.ofJson?
  | .binary => (w.decode? bs).map (·.1)

/-- Reads a payload. -/
def read {α : Type} (format : PayloadFormat) (w : Wire .value α) (bs : List UInt8) :
    Except Failure α :=
  match format.read? w bs with
  | some a => .ok a
  | none => .error (.codec "malformed payload")

end PayloadFormat

end CommandMesh
