import CommandMesh.Mesh.Task
import CommandMesh.Proofs.Bus
import CommandMesh.Proofs.Node.Handling
import Mathlib.Logic.Function.Basic

/-!
# `CommandMesh.Proofs.Mesh.Traffic`: messages between nodes, in any order

A `Traffic` is some nodes on a bus, each with a connection that is listened to on its behalf, and
the messages that they have taken up. Messages that a node takes up are handled side by side, so an
`Errand` says how far a node has got with one of them, and any errand may go on next: nothing is
said about the order, nor about how long anything takes. This is more than what a mesh does, which
queues its tasks; what is proved about every order holds of that one too.

A node takes up what its connection has received, all at once, and separately the messages that stay
inside it. What a node posts is handed on at once: to the bus, where it comes to every connection
that is fed, or to the node itself. Each node has a connection of its own, and all connections are
fed (`Traffic.Wired`). Nothing here connects a node anew or drops a receiver, so this goes on to be
so.

What a node keeps in the meantime is relative to some headers: `Node.Alike heard` says that the node
routes these headers as before, and says nothing about others. So routes may come and go while a
message is under way, as long as they are not about it.

The theorems:

* `Node.attend_arrived`: what becomes of a message that has arrived.
* `mail_put`: what comes to the nodes when one of them has done something.
* `takesUp_listen`, `takesUp_pump`: what taking messages up does.
-/

set_option autoImplicit false

namespace CommandMesh

/-- How far a node has got with a message that it has taken up. -/
inductive Stage where
  | arrived
  /-- The handler of this route is to run. -/
  | routed (route : Route Handler) (request : Request)
  /-- The handler runs. -/
  | running (route : Route Handler) (run : HandlerRun)
  /-- The handler has ended. -/
  | ended (route : Route Handler) (result : Except Fault (List Envelope))

/-- How many more times the node has to go on with the message. -/
def Stage.left : Stage → Nat
  | .arrived => 4
  | .routed _ _ => 3
  | .running _ _ => 2
  | .ended _ _ => 1

/-- Whether the handler is still to be called. -/
def Stage.isEarly : Stage → Bool
  | .arrived | .routed _ _ => true
  | .running _ _ | .ended _ _ => false

/-- A message that a node has taken up. -/
structure Errand (k : Nat) where
  node : Fin k
  message : Envelope
  stage : Stage

/-- Goes on with a message that was taken up. There is no further stage once it is done with. -/
def Node.attend (n : Node) (e : Envelope) (now : Instant) : Stage → Node × Option Stage
  | .arrived =>
    match n.accept e now with
    | (n, .handling route request) => (n, some (.routed route request))
    | (n, .unresolved) | (n, .escaped) => (n, none)
  | .routed route request =>
    let (n, run) := n.handle route.handler request now
    (n, some (.running route run))
  | .running route run =>
    let (n, result) := n.draw run.result
    (n, some (.ended route result))
  | .ended route result => ((n.conclude route e result).1, none)

/-- A message that has a route is not done with, unless the handler panics. -/
theorem Node.attend_arrived {n : Node} (hsound : n.roster.router.Sound) (e : Envelope)
    (now : Instant) :
    n.attend e now .arrived = ((n.accept e now).1,
      ((n.roster.router.scan e.header).filter fun route =>
        !route.handler.refuses (n.requestOf e)).map (.routed · (n.requestOf e))) := by
  have haccept := n.accept_eq hsound e now
  unfold attend
  dsimp only
  -- Without a route the node is done with the message; with one it is a matter of whether the
  -- handler panics.
  cases hscan : n.roster.router.scan e.header with
  | none =>
    rw [hscan] at haccept
    rw [show n.accept e now = ((n.accept e now).1, .unresolved) from Prod.ext rfl haccept]
    rfl
  | some route =>
    rw [hscan] at haccept
    cases hrefuses : route.handler.refuses (n.requestOf e) with
    | true =>
      simp only [hrefuses, if_true] at haccept
      rw [show n.accept e now = ((n.accept e now).1, .escaped) from Prod.ext rfl haccept]
      simp [Option.filter, hrefuses]
    | false =>
      simp only [hrefuses] at haccept
      rw [show n.accept e now = ((n.accept e now).1, .handling route (n.requestOf e)) from
        Prod.ext rfl haccept]
      simp [Option.filter, hrefuses]

/-- The node is set up as before and routes such headers as before. -/
structure Node.Alike (heard : Header → Prop) (n n' : Node) : Prop where
  setup : n'.setup = n.setup
  sound : n.roster.router.Sound → n'.roster.router.Sound
  routes : ∀ h, heard h → n'.roster.router.scan h = n.roster.router.scan h

/-- A node is alike to itself. -/
theorem Node.Alike.refl (heard : Header → Prop) (n : Node) : Node.Alike heard n n :=
  ⟨rfl, id, fun _ _ => rfl⟩

/-- Nodes on a bus, the connection of each, and the messages that they have taken up. -/
structure Traffic (k : Nat) where
  nodes : Fin k → Node
  connection : Fin k → Nat
  bus : Bus
  errands : List (Errand k) := []

namespace Traffic

variable {k : Nat} {t : Traffic k} {i j : Fin k}

/-- The messages that have come to a node and were not taken up yet. -/
def mail (t : Traffic k) (i : Fin k) : List Envelope :=
  (t.bus.inbox (t.connection i)).queue ++ (t.nodes i).loopback

/-- Puts a node in its place and hands on what it has posted. -/
def put (t : Traffic k) (i : Fin k) (n : Node) : Traffic k :=
  { t with
    nodes := Function.update t.nodes i { n with outbox := [] }
    bus := n.outbox.foldl Bus.submit t.bus }

/-- Takes messages up. -/
def takeUp (t : Traffic k) (i : Fin k) (es : List Envelope) : Traffic k :=
  { t with errands := t.errands ++ es.map fun e => ⟨i, e, .arrived⟩ }

/-- A node takes up what its connection has received. -/
def listen (t : Traffic k) (i : Fin k) : Traffic k :=
  let (es, bus) := t.bus.drain (t.connection i)
  { t with bus }.takeUp i es

/-- A node takes up the messages that stay inside it. -/
def pump (t : Traffic k) (i : Fin k) : Traffic k :=
  { t with nodes := Function.update t.nodes i { t.nodes i with loopback := [] } }.takeUp i
    (t.nodes i).loopback

/-- A node has got as far as that with an errand, which stands between others. -/
def progress (t : Traffic k) (before : List (Errand k)) (d : Errand k) (after : List (Errand k))
    (n : Node) (stage : Option Stage) : Traffic k :=
  { t.put d.node n with
    errands := before ++ ((stage.map fun stage => { d with stage }).toList ++ after) }

/-- A node goes on with an errand. -/
def advance (t : Traffic k) (before : List (Errand k)) (d : Errand k) (after : List (Errand k))
    (now : Instant) : Traffic k :=
  let (n, stage) := (t.nodes d.node).attend d.message now d.stage
  t.progress before d after n stage

/-- Every connection is fed, and each belongs to one node. -/
structure Wired (t : Traffic k) : Prop where
  fed : ∀ i, t.bus.Feeds (t.connection i)
  apart : Function.Injective t.connection

/-! ### What stays the same -/

/-- The nodes are connected as before, and alike. -/
structure Same (heard : Header → Prop) (t t' : Traffic k) : Prop where
  connection : t'.connection = t.connection
  fed : ∀ c, t.bus.Feeds c → t'.bus.Feeds c
  alike : ∀ i, Node.Alike heard (t.nodes i) (t'.nodes i)

/-- Connections go on to be fed and apart if the nodes are connected as before. -/
theorem Wired.of_same {heard : Header → Prop} {t' : Traffic k} (h : t.Wired)
    (hs : Same heard t t') : t'.Wired where
  fed := by
    intro i
    rw [hs.connection]
    exact hs.fed _ (h.fed i)
  apart := by
    rw [hs.connection]
    exact h.apart

/-- Taking up what a connection has received leaves all nodes as they are. -/
theorem same_listen (heard : Header → Prop) (t : Traffic k) (i : Fin k) :
    Same heard t (t.listen i) where
  connection := rfl
  fed := fun _ => Bus.feeds_drain
  alike := fun _ => Node.Alike.refl heard _

/-- Taking up what stays inside a node changes no setup and no route. -/
theorem same_pump (heard : Header → Prop) (t : Traffic k) (i : Fin k) :
    Same heard t (t.pump i) where
  connection := rfl
  fed := fun _ => id
  alike := (Function.forall_update_iff t.nodes fun j n => Node.Alike heard (t.nodes j) n).mpr
    ⟨⟨rfl, id, fun _ _ => rfl⟩, fun _ _ => Node.Alike.refl heard _⟩

/-- A node that has only posted something is alike. -/
theorem same_put (heard : Header → Prop) {n : Node} {out inside : List Envelope}
    (h : (t.nodes i).Adds out inside n) : Same heard t (t.put i n) where
  connection := rfl
  fed := fun _ hc => Bus.feeds_submitAll hc _
  alike := (Function.forall_update_iff t.nodes fun j n => Node.Alike heard (t.nodes j) n).mpr
    ⟨⟨h.setup, h.sound, fun header _ => Router.scan_congr h.routes header⟩,
      fun _ _ => Node.Alike.refl heard _⟩

/-! ### What comes to the nodes -/

/-- Everybody gets what a node has posted on the bus, and it alone what stays inside it. -/
theorem mail_put (h : t.Wired) {n : Node} {out inside : List Envelope}
    (hn : (t.nodes i).Adds out inside n) :
    (t.put i n).mail j = (t.bus.inbox (t.connection j)).queue ++ n.outbox ++
      ((t.nodes j).loopback ++ if j = i then inside else []) := by
  -- Everybody is fed, so the bus brings all that was posted to all of them.
  have hqueue := Bus.inbox_submitAll (h.fed j) n.outbox
  have hloop : ((t.put i n).nodes j).loopback =
      (t.nodes j).loopback ++ if j = i then inside else [] := by
    show (Function.update t.nodes i _ j).loopback = _
    by_cases hj : j = i
    · subst hj; simp [hn.loopback]
    · simp [hj]
  rw [mail, hloop]
  exact congrArg (· ++ _) hqueue

/-- Once a node has listened, only what stays inside it is still to come. -/
theorem mail_listen_self (h : t.Wired) : (t.listen i).mail i = (t.nodes i).loopback := by
  show ((t.bus.drain (t.connection i)).2.inbox (t.connection i)).queue ++ _ = _
  rw [Bus.inbox_drain_self (h.fed i)]
  rfl

/-- That one node listens takes nothing from the others. -/
theorem mail_listen_of_ne (h : t.Wired) (hj : j ≠ i) : (t.listen i).mail j = t.mail j := by
  show ((t.bus.drain (t.connection i)).2.inbox (t.connection j)).queue ++ _ = _
  rw [Bus.inbox_drain_of_ne fun heq => hj (h.apart heq)]
  rfl

/-- Once a node has taken up what stays inside it, only what its connection received is still to
come. -/
theorem mail_pump_self : (t.pump i).mail i = (t.bus.inbox (t.connection i)).queue := by
  show _ ++ (Function.update t.nodes i _ i).loopback = _
  simp [pump, takeUp]

/-- What stays inside one node comes to no other. -/
theorem mail_pump_of_ne (hj : j ≠ i) : (t.pump i).mail j = t.mail j := by
  show _ ++ (Function.update t.nodes i _ j).loopback = _
  simp [hj, mail, pump, takeUp]

/-- A node has taken up some of the messages that have come to it, and nothing else has changed. -/
structure TakesUp (t : Traffic k) (i : Fin k) (es : List Envelope) (t' : Traffic k) : Prop where
  same : ∀ heard, Same heard t t'
  mail : ∀ j, (t.mail j).Perm (t'.mail j ++ if j = i then es else [])
  errands : t'.errands = t.errands ++ es.map fun e => ⟨i, e, .arrived⟩
  waitlist : ∀ j, (t'.nodes j).waitlist = (t.nodes j).waitlist
  outbox : ∀ j, (t'.nodes j).outbox = (t.nodes j).outbox

/-- A node that listens takes up what its connection has received, and nothing else changes. -/
theorem takesUp_listen (h : t.Wired) :
    t.TakesUp i (t.bus.inbox (t.connection i)).queue (t.listen i) where
  same := fun heard => same_listen heard t i
  mail := by
    intro j
    by_cases hj : j = i
    · subst hj
      rw [mail_listen_self h, if_pos rfl]
      exact List.perm_append_comm
    · rw [mail_listen_of_ne h hj, if_neg hj, List.append_nil]
  errands := rfl
  waitlist := fun _ => rfl
  outbox := fun _ => rfl

/-- A node takes up what stays inside it, and nothing else changes. -/
theorem takesUp_pump : t.TakesUp i (t.nodes i).loopback (t.pump i) where
  same := fun heard => same_pump heard t i
  mail := by
    intro j
    by_cases hj : j = i
    · subst hj
      rw [mail_pump_self, if_pos rfl]
      exact List.Perm.refl _
    · rw [mail_pump_of_ne hj, if_neg hj, List.append_nil]
  errands := rfl
  waitlist := (Function.forall_update_iff t.nodes fun j n => n.waitlist = (t.nodes j).waitlist).mpr
    ⟨rfl, fun _ _ => rfl⟩
  outbox := (Function.forall_update_iff t.nodes fun j n => n.outbox = (t.nodes j).outbox).mpr
    ⟨rfl, fun _ _ => rfl⟩

end Traffic

end CommandMesh
