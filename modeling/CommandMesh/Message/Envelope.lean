import CommandMesh.Message.Routing
import CommandMesh.Supply

/-!
# `CommandMesh.Message.Envelope`: addressed messages

An `Envelope` carries a body of bytes with its address, its sender and, if the sender wants one, the
address of the answer. `Envelope.reply` makes the answer to a message: it goes to the return
address, is correlated to the message by its key, and asks for no answer itself.

The texts of an envelope are as they were written. They are brought into normal form where they are
compared, by `Envelope.header` for routes and by the waitlist for keys. The body is bytes, which
only the two ends of a request read and write, each in the payload format of its node.
-/

set_option autoImplicit false

namespace CommandMesh

/-- An addressed message. -/
structure Envelope where
  channel : String
  kind : String
  action : String
  /-- Names this message. An answer is correlated to it by this text. -/
  key : String
  /-- The service that wrote the message. -/
  sender : String
  /-- For an answer, the key of the message that it answers. -/
  inReplyTo : Option String
  priority : UInt8
  returnAddress : Option ReturnAddress
  deliveries : UInt32
  status : Option UInt16
  statusText : Option String
  /-- Whether the message stays inside the node that sends it. -/
  loopback : Bool
  body : List UInt8
deriving DecidableEq

namespace Envelope

/-- A message without a body that asks for no answer. -/
def blank (channel kind action sender key : String) : Envelope where
  channel := channel
  kind := kind
  action := action
  key := key
  sender := sender
  inReplyTo := none
  priority := 1
  returnAddress := none
  deliveries := 0
  status := none
  statusText := none
  loopback := false
  body := []

/-- A message without a body under a fresh key. -/
def create (channel kind action sender : String) : Fresh Envelope := do
  return blank channel kind action sender (← Supply.fresh)

/-- The header of the message. -/
def header (e : Envelope) : Header := .of e.channel e.kind e.action

/-- Whether the service wrote the message. -/
def isFrom (e : Envelope) (service : String) : Bool := e.sender == service

/-- The answer of a service to the message under the given key, if the message asks for one. It
keeps the priority of the message and stays inside the node if the message did. -/
def replyWithKey (e : Envelope) (service key : String) (status : UInt16) (text : String) :
    Option Envelope :=
  e.returnAddress.map fun r =>
    { blank r.channel r.kind r.action service key with
      status := some status
      statusText := some text
      inReplyTo := some e.key
      priority := e.priority
      loopback := e.loopback }

/-- The answer of a service to the message under a fresh key, if the message asks for one. A key is
drawn only then. -/
def reply (e : Envelope) (service : String) (status : UInt16) (text : String) :
    Fresh (Option Envelope) :=
  -- Nobody who asks for no answer should cost an identifier.
  match e.returnAddress with
  | none => return none
  | some _ => return e.replyWithKey service (← Supply.fresh) status text

/-- The layout of a message. -/
def wire : Wire .value Envelope :=
  .iso
    (.record <| .need "channel_id" .text <| .need "message_type" .text <| .need "action_type" .text
      <| .need "originator_key" .text <| .need "originator_service_id" .text
      <| .need "correlation_key" (.option .text) <| .need "priority" .word8
      <| .need "response" (.option ReturnAddress.wire) <| .need "delivery_count" .word32
      <| .need "status" (.option .word16) <| .need "status_description" (.option .text)
      <| .withDefault "route_internal" .bool false <| .need "blob" (.list .word8) .done)
    (fun (c, k, a, key, s, r, p, ra, d, st, t, l, b, ()) => ⟨c, k, a, key, s, r, p, ra, d, st, t, l, b⟩)
    (fun e => (e.channel, e.kind, e.action, e.key, e.sender, e.inReplyTo, e.priority,
      e.returnAddress, e.deliveries, e.status, e.statusText, e.loopback, e.body, ()))
    (fun _ => rfl) (fun _ => rfl)

end Envelope

end CommandMesh
