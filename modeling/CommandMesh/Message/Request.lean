import CommandMesh.Message.Envelope
import CommandMesh.Wire.Payload

/-!
# `CommandMesh.Message.Request`: a message in the hands of a handler

A `Request` is an inbound message together with what a handler needs to answer it: the service that
answers and the format of payloads. It has two ways of answering, with and without a payload, and
both give nothing if the sender has asked for no answer.

A `Response` is the other end of it: what the caller of a send gets. Every outcome that is expected
in operation has a status, taken from those of HTTP, so a caller looks at the status and not at
failures.
-/

set_option autoImplicit false

namespace CommandMesh

/-- An inbound message and what is needed to answer it. -/
structure Request where
  message : Envelope
  service : String
  format : PayloadFormat

namespace Request

/-- The body of the message as a payload. -/
def payload {α : Type} (r : Request) (w : Wire .value α) : Except Failure α :=
  r.format.read w r.message.body

/-- An answer without a body, if the sender asked for one. -/
def replyStatus (r : Request) (status : UInt16) (text : String) : Fresh (Option Envelope) :=
  r.message.reply r.service status text

/-- An answer that carries a payload, if the sender asked for one. -/
def reply {α : Type} (r : Request) (status : UInt16) (text : String) (w : Wire .value α) (a : α) :
    Fresh (Option Envelope) := do
  return (← r.replyStatus status text).map fun e => { e with body := r.format.write w a }

end Request

/-- How a send went: a status for every outcome that is expected, and the answer's payload where
there is one. -/
structure Response (α : Type) where
  /-- The correlation id of the request in normal form. -/
  id : String
  status : UInt16
  text : String
  payload : Option α
deriving DecidableEq

namespace Response

variable {α : Type}

/-- Whether the status tells of success. -/
def isSuccess (r : Response α) : Bool := 200 ≤ r.status && r.status < 300

/-- Whether no answer came in time. -/
def isTimeout (r : Response α) : Bool := r.status == 408

/-- The layout of a response. -/
def wire (w : Wire .value α) : Wire .value (Response α) :=
  .iso
    (.record <| .need "correlation_id" .text <| .need "status_code" .word16
      <| .need "status_message" .text <| .need "response" (.option w) .done)
    (fun (i, s, t, p, ()) => ⟨i, s, t, p⟩) (fun r => (r.id, r.status, r.text, r.payload, ()))
    (fun _ => rfl) (fun _ => rfl)

end Response

/-- How a request leaves its node. -/
inductive Passage where
  /-- Through the dispatcher onto the bus. -/
  | external
  /-- Back into the handlers of the node itself. -/
  | internal
deriving DecidableEq

/-- The layout of a passage. -/
def Passage.wire : Wire .value Passage :=
  .iso (.choice ["External", "Internal"] (by decide) (by decide))
    (fun | 0 => .external | 1 => .internal)
    (fun | .external => 0 | .internal => 1)
    (by decide) (fun b => by cases b <;> rfl)

end CommandMesh
