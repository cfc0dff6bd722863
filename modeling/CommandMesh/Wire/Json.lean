import CommandMesh.Wire.Basic
import CommandMesh.Json.Parser
import CommandMesh.Json.Printer

/-!
# `CommandMesh.Wire.Json`: described data as JSON

A record is written as an object with its members in the order of the description. It is read from
an object, with members in any order and unknown ones ignored, or from an array with one item for
each member in that order. A member that occurs twice is refused. A member that is left out takes
its `absent` value; in an object, an option that is left out is `none`.

A choice is a text, or an object with that text as the name of one member that is `null`.

Reading is strict about kinds and ranges: a number is an integer that fits into the word that is
asked for, and no text is taken for a number nor a number for a text. It is lenient about what it
does not know, as long as the names of all members are texts.

An option inside an option is written like a plain one, so `some none` and `none` share the spelling
`null` and only `none` is read back. Two members of one name would make each other unreadable.
`Proofs.Wire.Json` calls a layout clear when neither happens in it, and every layout that has a name
in the catalogue is.
-/

set_option autoImplicit false

namespace CommandMesh

/-- What a record is read from: named members or items by position. -/
inductive Fields where
  | named (members : List (Option String × Json))
  | listed (items : List Json)

/-- What a described thing is read from. -/
abbrev Form.Source : Form → Type
  | .value => Json
  | .members => Fields

/-- What a described thing is written to. -/
abbrev Form.Target : Form → Type
  | .value => Json
  | .members => List (Option String × Json)

namespace Wire

/-- The natural number that a JSON number names, if it is below the bound. -/
def natBelow? (bound : Nat) : Json → Option Nat
  | .number spelling =>
    match Json.integer? spelling with
    | some (.ofNat n) => if n < bound then some n else none
    | _ => none
  | _ => none

/-- The integer that a JSON number names, if it fits into 64 bits. -/
def int64? : Json → Option Int64
  | .number spelling =>
    match Json.integer? spelling with
    | some i =>
      if -9223372036854775808 ≤ i ∧ i < 9223372036854775808 then some (Int64.ofInt i) else none
    | none => none
  | _ => none

/-- The name that a JSON value chooses. -/
def chosen? : Json → Option String
  | .text t => t
  | .object [(name, .null)] => name
  | _ => none

/-- The value of a member that an object leaves out, if its type says so. -/
def implied? : {α : Type} → Wire .value α → Option α
  | _, .option _ => some none
  | _, _ => none

/-- Writes a value as JSON. -/
def toJson : {f : Form} → {α : Type} → Wire f α → α → f.Target
  | _, _, .text, s => .str s
  | _, _, .bool, b => .bool b
  | _, _, .word8, w => Json.ofNat w.toNat
  | _, _, .word16, w => Json.ofNat w.toNat
  | _, _, .word32, w => Json.ofNat w.toNat
  | _, _, .word64, w => Json.ofNat w.toNat
  | _, _, .int64, i => Json.ofInt i.toInt
  | _, _, .list item, as => .array (as.map item.toJson)
  | _, _, .option item, o =>
    match o with
    | none => .null
    | some a => item.toJson a
  | _, _, .choice names _ _, i => .str (names.get i)
  | _, _, .record members, a => .object (members.toJson a)
  | _, _, .iso layout _ parts _ _, b => layout.toJson (parts b)
  | _, _, .done, _ => []
  | _, _, .member name w _ rest, (a, b) => Json.member name (w.toJson a) :: rest.toJson b

/-- Reads a value from JSON. -/
def ofJson? : {f : Form} → {α : Type} → Wire f α → f.Source → Option α
  | _, _, .text, j =>
    match j with
    | .text t => t
    | _ => none
  | _, _, .bool, j =>
    match j with
    | .bool b => some b
    | _ => none
  | _, _, .word8, j => (natBelow? UInt8.size j).map UInt8.ofNat
  | _, _, .word16, j => (natBelow? UInt16.size j).map UInt16.ofNat
  | _, _, .word32, j => (natBelow? UInt32.size j).map UInt32.ofNat
  | _, _, .word64, j => (natBelow? UInt64.size j).map UInt64.ofNat
  | _, _, .int64, j => int64? j
  | _, _, .list item, j =>
    match j with
    | .array items => items.mapM item.ofJson?
    | _ => none
  | _, _, .option item, j =>
    match j with
    -- Null is for no value, whatever the item could be read from.
    | .null => some none
    | j => (item.ofJson? j).map some
  | _, _, .choice names _ _, j =>
    (chosen? j).bind fun name => names.finIdxOf? name
  | _, _, .record members, j =>
    match j with
    -- Every name has to be a text, also one that is ignored.
    | .object ms => if ms.all (·.1.isSome) then members.ofJson? (.named ms) else none
    | .array items => members.ofJson? (.listed items)
    | _ => none
  | _, _, .iso layout make _ _ _, j => (layout.ofJson? j).map make
  | _, _, .done, fields =>
    match fields with
    | .named _ => some ()
    | .listed [] => some ()
    | .listed _ => none
  | _, _, .member name w absent rest, fields =>
    match fields with
    | .named ms => do
      let a ← match Json.membersNamed name ms with
        -- The default of a member that has one comes before what its type implies.
        | [] => absent <|> w.implied?
        | [v] => w.ofJson? v
        | _ => none
      some (a, ← rest.ofJson? (.named ms))
    | .listed [] => do some (← absent, ← rest.ofJson? (.listed []))
    | .listed (v :: vs) => do some (← w.ofJson? v, ← rest.ofJson? (.listed vs))

end Wire

end CommandMesh
