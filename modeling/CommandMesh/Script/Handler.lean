import CommandMesh.Node.Handler

/-!
# `CommandMesh.Script.Handler`: handlers that follow a script

A `HandlerScript` says in data what a handler of a host does, so that a mesh can be tried out
without host code: how long a run lasts, how many runs stay without an answer, and what the others
do.

A handler of a host is a parameter of a route, a function from the number of the run and the request
to a run. A script names one such function, and what holds of all handlers holds of scripted ones. A
script cannot say that the handler refuses to start: `refuses` is false throughout. The deeds
`twice`, `bare` and `unmarked` are there to try what a node makes of answers that are not of the
usual form.
-/

set_option autoImplicit false

namespace CommandMesh

/-- The layout of two numbers to be added. -/
def SumRequest.wire : Wire .value (Int64 × Int64 × Unit) :=
  .record <| .need "a" .int64 <| .need "b" .int64 .done

/-- The layout of a sum. -/
def SumReply.wire : Wire .value (Int64 × Unit) := .record <| .need "sum" .int64 .done

/-- What a scripted handler does in the end. -/
inductive Deed where
  /-- Answers with the sum of two numbers, modulo 2 to the 64th. -/
  | add
  /-- Answers with the text that was sent. -/
  | echo
  /-- Answers with the name of the service. -/
  | whoami
  /-- Answers without a body. -/
  | bare
  /-- Answers without a body and without a status. -/
  | unmarked
  /-- Answers with these bytes. -/
  | raw (body : List UInt8)
  /-- Answers twice with the same message. -/
  | twice
  /-- Sends other messages. -/
  | emit (messages : Fresh (List Envelope))
  /-- Fails. -/
  | fail (f : Fault)
  | nothing

/-- What a handler does. -/
structure HandlerScript where
  deed : Deed
  tag : Option String := none
  watched : Bool := false
  delay : Span := 0
  /-- How many runs give nothing, before the first that does. -/
  swallowed : Nat := 0
  status : UInt16 := 200
  text : String := "OK"

namespace HandlerScript

/-- An answer with a payload, as the messages that a handler gives. -/
def replyWith {α : Type} (s : HandlerScript) (r : Request) (w : Wire .value α) (a : α) :
    Fresh (Except Fault (List Envelope)) := do
  return .ok (← r.reply s.status s.text w a).toList

/-- An answer without a payload, changed by a function. -/
def replyBare (s : HandlerScript) (r : Request) (change : Envelope → List Envelope) :
    Fresh (Except Fault (List Envelope)) := do
  return .ok ((← r.replyStatus s.status s.text).toList.flatMap change)

/-- Does what the script asks for. -/
def perform (s : HandlerScript) (r : Request) : Fresh (Except Fault (List Envelope)) :=
  match s.deed with
  | .add =>
    match r.payload SumRequest.wire with
    | .ok (a, b, ()) => s.replyWith r SumReply.wire (a + b, ())
    | .error f => return .error (.misuse f)
  | .echo =>
    match r.payload .text with
    | .ok t => s.replyWith r .text t
    | .error f => return .error (.misuse f)
  | .whoami => s.replyWith r .text r.service
  | .bare => s.replyBare r fun e => [e]
  | .unmarked => s.replyBare r fun e => [{ e with status := none, statusText := none }]
  | .raw body => s.replyBare r fun e => [{ e with body }]
  | .twice => s.replyBare r fun e => [e, e]
  | .emit messages => return .ok (← messages)
  | .fail f => return .error f
  | .nothing => return .ok []

/-- The n-th run of the handler, counted from one. -/
def run (s : HandlerScript) (n : Nat) (r : Request) : HandlerRun where
  delay := s.delay
  result := if n ≤ s.swallowed then pure (.ok []) else s.perform r

/-- The handler that follows the script, with a meter of its own. -/
def toHandler (s : HandlerScript) (meter : Nat) : Handler :=
  .host { meter, tag := s.tag, watched := s.watched, refuses := fun _ => false, run := s.run }

end HandlerScript

end CommandMesh
