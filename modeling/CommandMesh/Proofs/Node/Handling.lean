import CommandMesh.Node.Inbound
import CommandMesh.Proofs.Router.Cache

/-!
# `CommandMesh.Proofs.Node.Handling`: what handling a message does to a node

A node handles a message in four steps: it looks for a route, calls the handler of the route, takes
what the handler gives, and posts it. The lemmas here say of each step what it changes, so that
those who follow a message through the whole mesh need not look into a node.

Most of what a node does with a message is about its log, its journal and its tallies. `Stays` says
that a step does no more than that and to take an answer: how the node is set up, its routes and the
messages that it has posted are as they were. `Adds` says the same but for the messages that are
posted, on the bus or inside the node. Neither says anything about the requests of the node that
wait for an answer, since a step may settle one; where it does not, a lemma about the waitlist
stands beside.

Three kinds of handlers are told apart: that of the host, which may give any messages; the one that
takes answers; and that of the election. The theorems here are about a node whose link is the bus,
which can always send. A node that sends elsewhere may fail to, and then reports the message instead
of posting it. A handler of the host may panic when it is called, and then the message is done with
(`accept_eq`); or it may fail later, and that is concluded as an error.

The theorems:

* `accept_eq`, `stays_accept`: a route is looked for as if there were no cache, and the handler is
  to run unless it panics.
* `stays_takeAnswer`, `stays_hear_unreadable`, `startRun_eq`: the three kinds of handlers.
* `adds_conclude_ok`: what a handler gave is posted, in its order.
* `stays_conclude_error`: of a handler that failed on a message that asks for no answer nothing is
  posted.
-/

set_option autoImplicit false

namespace CommandMesh

namespace Router

variable {H : Type}

/-- What a header resolves to depends on the routes alone. -/
theorem scan_congr {t t' : Router H} (h : t'.routes = t.routes) (header : Header) :
    t'.scan header = t.scan header := by
  rw [scan, scan, h]

/-- Looking a header up changes no route. -/
theorem routes_resolve (t : Router H) (h : Header) : (t.resolve h).1.routes = t.routes := by
  rcases t.resolve_cases h with he | ⟨-, -, -, he⟩ <;> rw [he]

/-- Counting the calls of a route keeps a table sound. -/
theorem Sound.count {t : Router H} (h : t.Sound) (route : Nat) (f : Tally → Tally) :
    (t.count route f).Sound where
  numbered := h.numbered
  fresh := h.fresh
  coherent := h.coherent
  keyed := h.keyed
  bounded := h.bounded

end Router

namespace Node

variable {n n' n'' : Node}

/-- How the node is set up, its routes and its post are as before. -/
structure Stays (n n' : Node) : Prop where
  setup : n'.setup = n.setup
  routes : n'.roster.router.routes = n.roster.router.routes
  sound : n.roster.router.Sound → n'.roster.router.Sound
  outbox : n'.outbox = n.outbox
  loopback : n'.loopback = n.loopback

/-- A node that is left as it is stays. -/
theorem Stays.refl (n : Node) : Stays n n := ⟨rfl, rfl, id, rfl, rfl⟩

/-- Two steps that each leave a node as it is leave it so together. -/
theorem Stays.trans (h : Stays n n') (h' : Stays n' n'') : Stays n n'' where
  setup := h'.setup.trans h.setup
  routes := h'.routes.trans h.routes
  sound := fun hn => h'.sound (h.sound hn)
  outbox := h'.outbox.trans h.outbox
  loopback := h'.loopback.trans h.loopback

/-- Writing into the log leaves a node as it is. -/
theorem stays_report (n : Node) (entry : LogEntry) : Stays n (n.report entry) := by
  unfold report
  split
  · exact ⟨rfl, rfl, id, rfl, rfl⟩
  · exact Stays.refl n

/-- Drawing fresh ids leaves a node as it is. -/
theorem stays_draw {α : Type} (n : Node) (f : Fresh α) : Stays n (n.draw f).1 :=
  ⟨rfl, rfl, id, rfl, rfl⟩

/-- Reporting a fault under a tracking id leaves a node as it is. -/
theorem stays_reportFault (n : Node) (context error : String) :
    Stays n (n.reportFault context error).1 :=
  (stays_draw n Supply.fresh).trans (stays_report _ _)

/-- The node is set up and routed as before, and has posted these messages on the bus and inside
itself. -/
structure Adds (n : Node) (out inside : List Envelope) (n' : Node) : Prop where
  setup : n'.setup = n.setup
  routes : n'.roster.router.routes = n.roster.router.routes
  sound : n.roster.router.Sound → n'.roster.router.Sound
  outbox : n'.outbox = n.outbox ++ out
  loopback : n'.loopback = n.loopback ++ inside

/-- A node that stays as it is has posted nothing. -/
theorem Stays.adds (h : Stays n n') : n.Adds [] [] n' where
  setup := h.setup
  routes := h.routes
  sound := h.sound
  outbox := h.outbox.trans (List.append_nil _).symm
  loopback := h.loopback.trans (List.append_nil _).symm

/-! ### Before the handler -/

/-- What a handler is given of a message. -/
def requestOf (n : Node) (e : Envelope) : Request := ⟨e, n.setup.service, n.setup.format⟩

/-- A message goes to the first route that matches its header, unless the handler panics. -/
theorem accept_eq (hsound : n.roster.router.Sound) (e : Envelope) (now : Instant) :
    (n.accept e now).2 =
      match n.roster.router.scan e.header with
      | none => .unresolved
      | some route =>
        if route.handler.refuses (n.requestOf e) then .escaped
        else .handling route (n.requestOf e) := by
  have hfound := hsound.resolve_eq_scan e.header
  unfold accept
  dsimp only
  -- The cache plays no part: in a sound table a look-up and a scan of the routes agree.
  rw [hfound]
  cases n.roster.router.scan e.header with
  | none => rfl
  | some route =>
    dsimp only
    split
    · next hrefuses => exact (if_pos hrefuses).symm
    · next hruns => exact (if_neg hruns).symm

/-- Looking for a route leaves a node as it is, but for its cache and its tallies. -/
theorem stays_accept (n : Node) (e : Envelope) (now : Instant) : Stays n (n.accept e now).1 := by
  have hroutes := n.roster.router.routes_resolve e.header
  have hsound : n.roster.router.Sound → (n.roster.router.resolve e.header).1.Sound :=
    fun h => h.resolve e.header
  unfold accept
  dsimp only
  cases (n.roster.router.resolve e.header).2 with
  | none =>
    -- A message without a route is logged.
    refine Stays.trans ?_ (stays_report _ _)
    exact ⟨rfl, hroutes, hsound, rfl, rfl⟩
  | some route =>
    -- Whether the handler is called or panics, its call is counted.
    dsimp only
    split <;> exact ⟨rfl, hroutes, fun h => (hsound h).count route.number (·.invoked now), rfl, rfl⟩

/-- Writing into the log settles no request. -/
theorem waitlist_report (n : Node) (entry : LogEntry) : (n.report entry).waitlist = n.waitlist := by
  unfold report
  split <;> rfl

/-- Looking for a route settles no request. -/
theorem waitlist_accept (n : Node) (e : Envelope) (now : Instant) :
    (n.accept e now).1.waitlist = n.waitlist := by
  unfold accept
  dsimp only
  split
  · exact waitlist_report _ _
  · split <;> rfl

/-! ### The handler -/

/-- Taking an answer changes nothing but the requests that wait. -/
theorem stays_takeAnswer (n : Node) (e : Envelope) : Stays n (n.takeAnswer e) := by
  unfold takeAnswer
  split <;> exact ⟨rfl, rfl, id, rfl, rfl⟩

/-- A handler of the host is run, and nothing else happens but that the run is noted. Runs are
counted from one. -/
theorem startRun_eq (n : Node) (h : HostHandler) (r : Request) :
    ∃ count, (n.startRun h r).2 = h.run (count + 1) r ∧ Stays n (n.startRun h r).1 ∧
      (n.startRun h r).1.waitlist = n.waitlist := by
  refine ⟨_, rfl, ?_, ?_⟩
  · unfold startRun
    cases h.tag <;> exact ⟨rfl, rfl, id, rfl, rfl⟩
  · unfold startRun
    cases h.tag <;> rfl

/-- What is no announcement is logged. -/
theorem stays_hear_unreadable {e : Envelope} (he : Announcement.ofText? e.action = none)
    (now : Instant) : Stays n (n.hear e now).1 ∧ (n.hear e now).2 = [] := by
  unfold hear Candidate.process Announcement.ofText
  -- The candidate says that it cannot read the text and changes nothing.
  rw [he]
  exact ⟨stays_report _ _, rfl⟩

/-! ### After the handler -/

/-- The node once it has posted messages, on the bus or inside itself as each of them says. -/
def posted (n : Node) (es : List Envelope) : Node :=
  { n with
    outbox := n.outbox ++ es.filter (!·.loopback)
    loopback := n.loopback ++ es.filter (·.loopback) }

/-- Posting messages adds them to what was posted, and does nothing else. -/
theorem adds_posted (n : Node) (es : List Envelope) :
    n.Adds (es.filter (!·.loopback)) (es.filter (·.loopback)) (n.posted es) :=
  ⟨rfl, rfl, id, rfl, rfl⟩

/-- A node whose link is the bus can send every message. -/
theorem emit_eq (hlink : n.setup.link = .bus) (e : Envelope) : n.emit e = .ok (n.posted [e]) := by
  unfold emit submit posted
  rw [hlink]
  -- One message is posted in one of two places, so one of the two filters is empty.
  cases he : e.loopback <;> simp [he]

/-- A node whose link is the bus posts what a handler gave, in its order. -/
theorem emitAll_eq (hlink : n.setup.link = .bus) (e : Envelope) (responses : List Envelope) :
    n.emitAll e responses = n.posted responses := by
  unfold emitAll
  induction responses generalizing n with
  | nil => simp [posted]
  | cons r responses ih =>
    -- To post one message and then others is to post them all.
    have hposted : (n.posted [r]).posted responses = n.posted (r :: responses) := by
      cases hr : r.loopback <;> simp [posted, hr]
    rw [List.foldl_cons, emitOrReport, emit_eq hlink, ← hposted]
    exact ih hlink

/-- What a handler gave is posted, on the bus or inside the node as each message says. -/
theorem adds_conclude_ok (hlink : n.setup.link = .bus) (route : Route Handler) (e : Envelope)
    (responses : List Envelope) :
    n.Adds (responses.filter (!·.loopback)) (responses.filter (·.loopback))
      (n.conclude route e (.ok responses)).1 := by
  show n.Adds _ _ (n.emitAll e responses)
  rw [emitAll_eq hlink]
  exact n.adds_posted responses

/-- Posting what a handler gave settles no request. -/
theorem waitlist_conclude_ok (hlink : n.setup.link = .bus) (route : Route Handler) (e : Envelope)
    (responses : List Envelope) :
    (n.conclude route e (.ok responses)).1.waitlist = n.waitlist := by
  show (n.emitAll e responses).waitlist = n.waitlist
  rw [emitAll_eq hlink]
  rfl

/-- Telling the host of a fault leaves a node as it is and settles no request. -/
theorem stays_tellOfFault (n : Node) (route : Route Handler) (e : Envelope) (f : Fault) :
    Stays n (n.tellOfFault route e f) ∧ (n.tellOfFault route e f).waitlist = n.waitlist := by
  unfold tellOfFault
  split
  · split <;> exact ⟨⟨rfl, rfl, id, rfl, rfl⟩, rfl⟩
  · exact ⟨Stays.refl n, rfl⟩
  · exact ⟨Stays.refl n, rfl⟩

/-- A handler that failed on a message that asks for no answer leads to no message. -/
theorem stays_conclude_error {e : Envelope} (he : e.returnAddress = none) (route : Route Handler)
    (f : Fault) : Stays n (n.conclude route e (.error f)).1 ∧
      (n.conclude route e (.error f)).1.waitlist = n.waitlist := by
  -- There is nobody to be told of the fault.
  have hreply (service text : String) (status : UInt16) :
      e.reply service status text = (pure none : Fresh (Option Envelope)) := by
    unfold Envelope.reply
    rw [he]
  let counted : Node := { n with roster := { n.roster with
    router := n.roster.router.count route.number Tally.failed } }
  let logged := (counted.reportFault
    ("Handler " ++ route.pattern.text ++ " failed on " ++ e.header.text) f.text).1
  have hfault : (n.conclude route e (.error f)).1 = logged.tellOfFault route e f := by
    simp only [conclude, fault, hreply]
    rfl
  have hcounted : Stays n counted :=
    ⟨rfl, rfl, fun h => h.count route.number Tally.failed, rfl, rfl⟩
  obtain ⟨htell, hlist⟩ := logged.stays_tellOfFault route e f
  rw [hfault]
  exact ⟨(hcounted.trans (counted.stays_reportFault _ _)).trans htell,
    hlist.trans (waitlist_report _ _)⟩

end Node

end CommandMesh
