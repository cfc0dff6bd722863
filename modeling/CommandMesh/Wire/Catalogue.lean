import CommandMesh.Election.Basic
import CommandMesh.Message.Request
import CommandMesh.Policy
import CommandMesh.Router.Basic
import CommandMesh.Schedule.Job
import CommandMesh.Script.Handler

/-!
# `CommandMesh.Wire.Catalogue`: layouts by name

`Wire.named?` finds the layout of a type by the name under which hosts know it, for tools that get
to know only at run time what they have to read or write. A layout stands here together with its
type, so a tool can read a value and write it again without knowing what it is.
-/

set_option autoImplicit false

namespace CommandMesh

/-- A type with its layout. -/
structure TypedWire where
  type : Type
  wire : Wire .value type

namespace Wire

/-- The layout of an invoice: a number and a customer. -/
def invoice : Wire .value (UInt32 × String × Unit) :=
  .record <| .need "id" .word32 <| .need "customer" .text .done

/-- The layouts of plain values. -/
def plain : List (String × TypedWire) :=
  [("string", ⟨_, .text⟩), ("u8", ⟨_, .word8⟩), ("u16", ⟨_, .word16⟩), ("u32", ⟨_, .word32⟩),
   ("u64", ⟨_, .word64⟩), ("i64", ⟨_, .int64⟩), ("bool", ⟨_, .bool⟩),
   ("list_i64", ⟨_, .list .int64⟩), ("list_string", ⟨_, .list .text⟩),
   ("option_string", ⟨_, .option .text⟩)]

/-- The layouts of messages and what they hold. -/
def messages : List (String × TypedWire) :=
  [("invoice", ⟨_, invoice⟩), ("add", ⟨_, SumRequest.wire⟩), ("message", ⟨_, Envelope.wire⟩),
   ("routing", ⟨_, ReturnAddress.wire⟩), ("key", ⟨_, RoutePattern.wire⟩),
   ("service_id", ⟨_, .text⟩), ("handle", ⟨_, .text⟩), ("options", ⟨_, Passage.wire⟩),
   ("response_text", ⟨_, Response.wire .text⟩)]

/-- The layouts of policies and of what nodes tell about themselves. -/
def settings : List (String × TypedWire) :=
  [("state", ⟨_, Standing.wire⟩), ("action", ⟨_, Announcement.wire⟩),
   ("master_policy", ⟨_, ElectionPolicy.wire⟩), ("retry", ⟨_, RetryPolicy.wire⟩),
   ("command_policy", ⟨_, NodePolicy.wire⟩), ("status", ⟨_, ElectionStatus.wire⟩),
   ("handler_stats", ⟨_, RouteStats.wire⟩), ("schedule_stats", ⟨_, JobStats.wire⟩)]

/-- The layout of that name. -/
def named? (name : String) : Option TypedWire := (plain ++ messages ++ settings).lookup name

end Wire

end CommandMesh
