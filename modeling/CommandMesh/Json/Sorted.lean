import CommandMesh.Json.Basic

/-!
# `CommandMesh.Json.Sorted`: values with their members in order

`Json.sorted` puts the members of every object in the order of their names, so that values which
differ in the order of members alone are written alike.

It is for tools that compare reports, and no node uses it. Repeated names keep their order, since a
reader may take the first or the last of them, and the items of arrays are never moved.
-/

set_option autoImplicit false

namespace CommandMesh.Json

/-- Whether a name comes before another one. A name that is no text comes first. -/
def nameLe (a b : Option String) : Bool :=
  match a, b with
  | none, _ => true
  | some _, none => false
  | some a, some b => decide (a ≤ b)

/-- The value with the members of its objects in the order of their names. Members of one name keep
their order. -/
def sorted : Json → Json
  | .array items => .array (sortedItems items)
  | .object members => .object ((sortedMembers members).mergeSort fun a b => nameLe a.1 b.1)
  | .null => .null
  | .bool b => .bool b
  | .number n => .number n
  | .text t => .text t
where
  /-- Items with their own members in order. -/
  sortedItems : List Json → List Json
    | [] => []
    | v :: rest => sorted v :: sortedItems rest
  /-- Members with their own members in order. -/
  sortedMembers : List (Option String × Json) → List (Option String × Json)
    | [] => []
    | (name, v) :: rest => (name, sorted v) :: sortedMembers rest

end CommandMesh.Json
