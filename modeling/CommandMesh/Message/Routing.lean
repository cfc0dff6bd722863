import CommandMesh.Text.Case
import CommandMesh.Text.Quoted
import CommandMesh.Wire.Basic

/-!
# `CommandMesh.Message.Routing`: headers and the patterns that match them

A message is addressed by a channel, a kind and an action. `Header` holds the three in their normal
form, and a `RoutePattern` matches headers field by field: a field that is left open matches every
text.

Headers and patterns are made of texts as they were written (`Header.of`, `RoutePattern.of`), so two
spellings of one address are equal as soon as they are headers. A pattern that was read from bytes
keeps its texts as they are. One whose texts are not in normal form then matches nothing, and it is
up to whoever reads patterns to make them anew.
-/

set_option autoImplicit false

namespace CommandMesh

/-- Channel, kind and action of a message in normal form. -/
structure Header where
  channel : String
  kind : String
  action : String
deriving DecidableEq

namespace Header

/-- The header of the texts as they were written. -/
def of (channel kind action : String) : Header :=
  ⟨Text.routingForm channel, Text.routingForm kind, Text.routingForm action⟩

/-- The three fields with slashes between them. -/
def text (h : Header) : String := h.channel ++ "/" ++ h.kind ++ "/" ++ h.action

end Header

/-- What headers a handler listens to. A field that is `none` is open. -/
structure RoutePattern where
  channel : Option String
  kind : Option String
  action : Option String
deriving DecidableEq

namespace RoutePattern

/-- The pattern of the texts as they were written. -/
def of (channel kind action : Option String) : RoutePattern :=
  ⟨channel.map Text.routingForm, kind.map Text.routingForm, action.map Text.routingForm⟩

/-- Whether a field of a pattern admits a text. -/
def admits (field : Option String) (s : String) : Bool := field.all (· == s)

/-- Whether the pattern matches the header. -/
def matchesHeader (p : RoutePattern) (h : Header) : Bool :=
  admits p.channel h.channel && admits p.kind h.kind && admits p.action h.action

/-- The three fields with slashes between them and a star for an open one. -/
def text (p : RoutePattern) : String :=
  p.channel.getD "*" ++ "/" ++ p.kind.getD "*" ++ "/" ++ p.action.getD "*"

/-- The pattern with its fields spelt out. -/
def debugText (p : RoutePattern) : String :=
  "RoutingKey \x7b channel_id: " ++ Text.quotedOption p.channel ++ ", message_type: "
    ++ Text.quotedOption p.kind ++ ", action_type: " ++ Text.quotedOption p.action ++ " \x7d"

/-- The layout of a pattern. Patterns that were read keep their texts as they are. -/
def wire : Wire .value RoutePattern :=
  .iso
    (.record <| .need "channel_id" (.option .text) <| .need "message_type" (.option .text)
      <| .need "action_type" (.option .text) .done)
    (fun (c, k, a, ()) => ⟨c, k, a⟩) (fun p => (p.channel, p.kind, p.action, ()))
    (fun _ => rfl) (fun _ => rfl)

end RoutePattern

/-- Where an answer is to be sent, as it was written. -/
structure ReturnAddress where
  channel : String
  kind : String
  action : String
deriving DecidableEq

/-- The layout of a return address. -/
def ReturnAddress.wire : Wire .value ReturnAddress :=
  .iso
    (.record <| .need "channel_id" .text <| .need "message_type" .text
      <| .need "action_type" .text .done)
    (fun (c, k, a, ()) => ⟨c, k, a⟩) (fun r => (r.channel, r.kind, r.action, ()))
    (fun _ => rfl) (fun _ => rfl)

end CommandMesh
