import CommandMesh.Message.Envelope

/-!
# `CommandMesh.Bus`: messages between the nodes of a process

Every endpoint of a `Bus` gets every message that is submitted, whoever submits it. An endpoint is
the current connection of a service; connecting a service again puts a new connection in the place
of the old one. What a connection has received stays in its inbox until it is taken out, also after
the connection was replaced or removed.

Inboxes have no bound, and nothing on the way is lost, doubled or brought out of order: a message is
in the inbox of every endpoint as soon as it was submitted. Whoever listens to a connection may stop
at any time. The bus finds that out only when it next has something to deliver, so until then the
endpoint is still counted.

Connections are numbered in the order in which they were made and keep their numbers, so that the
inbox of one that was replaced can still be read.
-/

set_option autoImplicit false

namespace CommandMesh

/-- The receiving side of a connection. -/
structure Inbox where
  /-- Messages in the order in which they came. -/
  queue : List Envelope := []
  /-- Whether somebody may still take messages out. -/
  listening : Bool := true

/-- A bus with all connections that were ever made, by number. -/
structure Bus where
  /-- The current connection of each service. -/
  endpoints : List (String × Nat) := []
  inboxes : List Inbox := []

namespace Bus

/-- The inbox of a connection. -/
def inbox (b : Bus) (connection : Nat) : Inbox := b.inboxes.getD connection ⟨[], false⟩

/-- Whether the connection is the current one of its service, so that more messages may come. -/
def isOpen (b : Bus) (connection : Nat) : Bool := b.endpoints.any (·.2 == connection)

/-- Makes a connection the current one of a service. Gives the number of the connection. -/
def connect (b : Bus) (service : String) : Bus × Nat :=
  ({ endpoints := b.endpoints.filter (·.1 != service) ++ [(service, b.inboxes.length)]
     inboxes := b.inboxes ++ [{}] },
    b.inboxes.length)

/-- Removes the connection of a service, if it has one. -/
def disconnect (b : Bus) (service : String) : Option Bus :=
  if b.endpoints.any (·.1 == service) then
    some { b with endpoints := b.endpoints.filter (·.1 != service) }
  else none

/-- Gives a message to every endpoint. Endpoints that nobody listens to are removed. -/
def submit (b : Bus) (e : Envelope) : Bus where
  -- That nobody listens is found out only when a message is to be delivered.
  endpoints := b.endpoints.filter fun p => (b.inbox p.2).listening
  inboxes := b.inboxes.mapIdx fun connection inbox =>
    if b.isOpen connection && inbox.listening then
      { inbox with queue := inbox.queue ++ [e] }
    else inbox

/-- Changes the inbox of a connection. -/
def setInbox (b : Bus) (connection : Nat) (inbox : Inbox) : Bus :=
  { b with inboxes := b.inboxes.set connection inbox }

/-- Takes the first message of a connection. -/
def receive? (b : Bus) (connection : Nat) : Option (Envelope × Bus) :=
  match b.inbox connection with
  | ⟨e :: rest, listening⟩ => some (e, b.setInbox connection ⟨rest, listening⟩)
  | ⟨[], _⟩ => none

/-- Takes all messages of a connection. -/
def drain (b : Bus) (connection : Nat) : List Envelope × Bus :=
  let inbox := b.inbox connection
  (inbox.queue, b.setInbox connection { inbox with queue := [] })

/-- Stops listening to a connection. What it has received is lost. -/
def deafen (b : Bus) (connection : Nat) : Bus := b.setInbox connection ⟨[], false⟩

/-- How many services have a connection. -/
def size (b : Bus) : Nat := b.endpoints.length

end Bus

end CommandMesh
