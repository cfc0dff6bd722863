import CommandMesh.Json.Access
import CommandMesh.Node.Inbound
import CommandMesh.Text.Hex

/-!
# `CommandMesh.Report.Message`: what is reported about messages

Reports are JSON values for people and tools. They show what a value holds and cannot be read back:
bodies are written as hexadecimal digits, and addresses as rows of texts.

The report on a message shows every field of it, those that no node acts on included, so that two
meshes which are reported alike have exchanged the same messages. Nothing is proved about reports,
and no node reads one.
-/

set_option autoImplicit false

namespace CommandMesh.Report

open Json

/-- A span, in milliseconds and in the unit that suits it. -/
def span (s : Span) : Json :=
  record [("ms", str (Nat.repr (Span.toMillis s))), ("debug", str (Span.text s))]

/-- An address. -/
def address (channel kind action : String) : Json := .array [str channel, str kind, str action]

/-- An address for answers. -/
def returnAddress (r : ReturnAddress) : Json := address r.channel r.kind r.action

/-- A pattern, with null where anything matches. -/
def pattern (p : RoutePattern) : Json :=
  .array [ofText? p.channel, ofText? p.kind, ofText? p.action]

/-- A message. -/
def envelope (e : Envelope) : Json :=
  record
    [("address", address e.channel e.kind e.action), ("key", str e.key), ("from", str e.sender),
     ("correlation", ofText? e.inReplyTo), ("priority", ofNat e.priority.toNat),
     ("response", (e.returnAddress.map returnAddress).getD .null),
     ("delivery", ofNat e.deliveries.toNat), ("status", ofNat? (e.status.map (·.toNat))),
     ("description", ofText? e.statusText), ("internal", .bool e.loopback),
     ("blob", str (Text.hex e.body))]

/-- A message, if there is one. -/
def envelope? (e : Option Envelope) : Json := (e.map envelope).getD .null

/-- Messages. -/
def envelopes (es : List Envelope) : Json := .array (es.map envelope)

/-- The outcome of a request. -/
def outcome : Outcome → Json
  | .answered e => record [("response", envelope e)]
  | .timedOut => str "TimedOut"
  | .cancelled => str "Cancelled"

/-- What became of a message. -/
def disposition : Disposition → Json
  | .handled es => record [("handled", .bool true), ("responses", envelopes es)]
  | .unresolved => record [("handled", .bool false), ("outcome", str "Unresolved")]
  | .faulted id =>
    record [("handled", .bool false), ("outcome", str "Faulted"), ("tracking_id", str id)]

end CommandMesh.Report
