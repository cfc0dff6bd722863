import CommandMesh.Json.Basic

/-!
# `CommandMesh.Json.Access`: reading loosely and writing briefly

A loose reader takes what is missing, or is of another kind than the one that is asked for, for
nothing: the empty text, zero, `false` or the empty list. It is for values that people write by
hand; typed values are read by `Wire.ofJson?`, which is strict.

Of a name that occurs more than once the loose reader takes the last occurrence, where the strict
one refuses the object if it knows the name.
-/

set_option autoImplicit false

namespace CommandMesh.Json

/-! ### Values -/

/-- The text that a value is. -/
def text? : Json → Option String
  | .text t => t
  | _ => none

/-- The text that a value is, or the empty text. -/
def asText (v : Json) : String := v.text?.getD ""

/-- The integer that a value is, or zero. -/
def asInt : Json → Int
  | .number n => (integer? n).getD 0
  | _ => 0

/-- The items of a value. -/
def asItems : Json → List Json
  | .array items => items
  | _ => []

/-- The item at a position, or null. -/
def item (v : Json) (i : Nat) : Json := v.asItems[i]?.getD .null

/-! ### Members -/

/-- The member of that name, or null. -/
def field (v : Json) (name : String) : Json := (v.get? name).getD .null

/-- Whether the value has a member of that name that is not null. -/
def has (v : Json) (name : String) : Bool :=
  match v.field name with
  | .null => false
  | _ => true

/-- The text of a member. -/
def textAt? (v : Json) (name : String) : Option String := (v.field name).text?

/-- The text of a member, or the empty text. -/
def textAt (v : Json) (name : String) : String := (v.field name).asText

/-- The integer of a member, or zero. -/
def intAt (v : Json) (name : String) : Int := (v.field name).asInt

/-- The integer of a member, or zero if it is below. -/
def natAt (v : Json) (name : String) : Nat := (v.intAt name).toNat

/-- The integer of a member that is there. -/
def natAt? (v : Json) (name : String) : Option Nat :=
  if v.has name then some (v.natAt name) else none

/-- Whether a member is true. -/
def flagAt (v : Json) (name : String) : Bool :=
  match v.field name with
  | .bool b => b
  | _ => false

/-- The items of a member. -/
def itemsAt (v : Json) (name : String) : List Json := (v.field name).asItems

/-! ### Writing -/

/-- An object with these members. -/
def record (members : List (String × Json)) : Json := .object (members.map fun m => member m.1 m.2)

/-- A text or null. -/
def ofText? (t : Option String) : Json := (t.map str).getD .null

/-- A number or null. -/
def ofNat? (n : Option Nat) : Json := (n.map ofNat).getD .null

end CommandMesh.Json
