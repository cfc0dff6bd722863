import CommandMesh.Proofs.Mesh.Exchange
import CommandMesh.Proofs.Node.Callers
import CommandMesh.Proofs.Wire.Payload
import CommandMesh.Script.Handler

/-!
# `CommandMesh.Proofs.Mesh.Answer`: typed requests are answered

An `Inquiry` is a request for a value of one type that is answered by a value of another. It is
`Ready` in a mesh where one node has a handler that answers it like a function and where the answer
finds its way back. The main result is that the caller then gets the function's value, after so many
steps of the exchange at most, whatever the order in which the nodes act and whatever else they do
meanwhile.

What is assumed of the mesh is all in `Ready`, and each field is there for one reason:

* `wired`, `linked`, `running`: every node is on the bus, and the client can send at all.
* `format`, `sound`: the nodes write values alike, and their cached routes are those of their
  tables.
* `served`, `unheard`: the request is answered by the server and by nobody else. With two servers
  the caller would get the answer that comes first.
* `collected`: the client's own route is the first for what is addressed to it; otherwise a handler
  of the host would take the answer.
* `reticent`: whoever overhears the answer does not answer it under the same id in turn.
* `serves`, `new`, `mail`, `posted`, `errands`: nothing is under way already under the id or the
  ticket that the request is going to have.

Of the handler it is assumed that it reads the value and replies with the function's value each time
that it runs (`ServedBy`); of the values, that the format can carry them (`Writable`), which holds
of every layout that is supported as long as binary texts are not too long. Time does not pass: the
bound is in steps of the exchange and not in seconds, and the run is one in which the request is
neither cancelled nor swept.

The invariant is `Deal.Holds`. Here it is established for the moment after the request was posted,
and what it says at the end is read off as the response of the caller.

* `beginSend_eq`, `holds_start`: the request is posted and waited for, and so the exchange begins.
* `load_start`: what there is to do at first, as a number that depends on the size of the mesh
  alone.
* `continueSend_of_answered`: the answer that the client takes reads as the function's value.
* `send_gets_answer`: the caller gets the response, whatever the order in which the nodes go on and
  whatever else they do meanwhile.
* `echo_gets_answer`: two nodes, one of which sends back every text as it is.
-/

set_option autoImplicit false

namespace CommandMesh

variable {α β : Type} {k : Nat}

/-- A request that is answered by a value, and how. -/
structure Inquiry (α β : Type) where
  channel : String
  kind : String
  action : String
  options : SendOptions
  format : PayloadFormat
  asks : Wire .value α
  replies : Wire .value β
  answer : α → β
  status : UInt16
  text : String

namespace Inquiry

variable (q : Inquiry α β)

/-- The letter that asks. -/
def letter (a : α) : Letter where
  channel := q.channel
  kind := q.kind
  action := q.action
  body := .ok (q.format.write q.asks a)
  options := q.options

/-- The header under which the letter goes. -/
def header : Header := .of q.channel q.kind q.action

/-- The message that goes out from a node. -/
def message (n : Node) (a : α) : Envelope := n.letterMessage (q.letter a) (q.format.write q.asks a)

/-- Each run of the handler, counted from one, answers a value that it can read with the function's
value, and the handler never panics. -/
structure ServedBy (h : HostHandler) : Prop where
  calm : ∀ r, h.refuses r = false
  answers : ∀ count r a, r.payload q.asks = .ok a →
    (h.run (count + 1) r).result = do
      return .ok (← r.reply q.status q.text q.replies (q.answer a)).toList

/-- The id of the request in normal form: the one that was asked for, or else a fresh one. -/
def id (n : Node) : String :=
  Text.correlationForm (q.options.correlation.getD (n.draw Supply.fresh).2)

/-- The request, the answer and where they go. -/
def deal (t : Traffic k) (client server : Fin k) (a : α) : Deal k where
  client := client
  server := server
  request := q.message (t.nodes client) a
  back := (t.nodes client).returnAddress
  ticket := (t.nodes client).waitlist.nextTicket
  status := q.status
  text := q.text
  body := q.format.write q.replies (q.answer a)

/-- A mesh in which the request can be made and answered. Nothing is said about what else its nodes
have routes for, nor about messages that are under way under other ids. -/
structure Ready (t : Traffic k) (client server : Fin k) : Prop where
  wired : t.Wired
  linked : ∀ i, (t.nodes i).setup.link = .bus
  format : ∀ i, (t.nodes i).setup.format = q.format
  sound : ∀ i, (t.nodes i).roster.router.Sound
  running : (t.nodes client).running = true
  /-- Somebody waits for the answer. -/
  awaited : q.options.detached = false
  /-- A request that stays inside the client can be answered by the client only. -/
  inside : q.options.passage = .internal → server = client
  /-- The server answers the request, -/
  served : ∃ route h, (t.nodes server).roster.router.scan q.header = some route ∧
    route.handler = .host h ∧ q.ServedBy h
  /-- and no other node has a route for it. -/
  unheard : ∀ i, i ≠ server → (t.nodes i).roster.router.scan q.header = none
  /-- The client's own route is the first for what is addressed to it. -/
  collected : ∃ route, (t.nodes client).roster.router.scan (t.nodes client).returnAddress.header =
    some route ∧ route.handler = .answers
  /-- Others may hear the answer as well, but do not go on about it under the id of the request. -/
  reticent : ∀ i route h,
    (t.nodes i).roster.router.scan (t.nodes client).returnAddress.header = some route →
      route.handler = .host h → ∀ count r, r.message.returnAddress = none →
        r.message.isAbout (q.id (t.nodes client)) = true → ∀ s es,
          ((h.run (count + 1) r).result.run s).1 = .ok es →
            ∀ e ∈ es, e.isAbout (q.id (t.nodes client)) = false
  /-- Callers that wait already hold tickets that were handed out to them. -/
  serves : ∃ callers, (t.nodes client).waitlist.Serves callers
  /-- No request waits under the id, -/
  new : q.id (t.nodes client) ∉ (t.nodes client).waitlist.pending.map (·.id)
  /-- and no other exchange is under way under it. -/
  mail : ∀ i, ∀ e ∈ t.mail i, e.isAbout (q.id (t.nodes client)) = false
  posted : ∀ i, ∀ e ∈ (t.nodes i).outbox, e.isAbout (q.id (t.nodes client)) = false
  errands : ∀ d ∈ t.errands, d.message.isAbout (q.id (t.nodes client)) = false

/-- The format can carry the value and its answer. -/
structure Writable (a : α) : Prop where
  asked : q.format.Carries q.asks a
  answered : q.format.Carries q.replies (q.answer a)
  /-- No answer is without bytes. -/
  occupies : q.format = .binary → q.replies.occupies = true

variable {q} {t : Traffic k} {client server : Fin k} {a : α}

/-- Values of supported layouts can be carried, if they are not too long for binary. -/
theorem writable_of_supported (hasks : q.asks.supported = true)
    (hreplies : q.replies.supported = true)
    (hfits : q.format = .binary → q.asks.Fits a ∧ q.replies.Fits (q.answer a)) : q.Writable a where
  asked := PayloadFormat.carries_of_supported hasks fun h => (hfits h).1
  answered := PayloadFormat.carries_of_supported hreplies fun h => (hfits h).2
  occupies := fun _ => (Bool.and_eq_true_iff.mp hreplies).2

/-- The exchange is about the id of the request. -/
theorem concerns_deal (e : Envelope) :
    (q.deal t client server a).concerns e = e.isAbout (q.id (t.nodes client)) := rfl

/-- The request of a ready inquiry names the address where the client collects its answers, and if
it stays inside the client, the client is also the server. -/
theorem proper_deal (h : q.Ready t client server) : (q.deal t client server a).Proper where
  asks := rfl
  action := rfl
  inside := by
    intro hloop
    have hpassage : (q.options.passage == .internal) = true := hloop
    exact h.inside (by simpa using hpassage)

/-- What the handler gives for the request is the answer. -/
theorem promises_deal (hq : q.Writable a) {h : HostHandler} (hserved : q.ServedBy h) {n : Node}
    (hformat : n.setup.format = q.format) (count : Nat) :
    (q.deal t client server a).Promises
      (h.run (count + 1) (n.requestOf (q.message (t.nodes client) a))) := by
  have hpayload : (n.requestOf (q.message (t.nodes client) a)).payload q.asks = .ok a := by
    show n.setup.format.read q.asks (q.format.write q.asks a) = .ok a
    rw [hformat]
    exact PayloadFormat.read_write hq.asked
  -- Whatever the supply is like when the handler runs, its reply is the message that the deal
  -- expects.
  intro s
  rw [hserved.answers count _ a hpayload]
  refine ⟨_, rfl, rfl, rfl, rfl, rfl, rfl, rfl, ?_, rfl⟩
  show n.setup.format.write q.replies (q.answer a) = _
  rw [hformat]
  rfl

/-- In a ready mesh the routes of the request and of its answer are as the exchange needs them. -/
theorem grounded_deal (h : q.Ready t client server) (hq : q.Writable a) :
    (q.deal t client server a).Grounded t where
  wired := h.wired
  linked := h.linked
  sound := h.sound
  unheard := h.unheard
  answered := by
    -- What the handler gives at its next run does not depend on how often it ran before.
    obtain ⟨route, handler, hscan, hhandler, hserved⟩ := h.served
    refine ⟨route, hscan, ?_, handler, hhandler, fun count => ?_⟩
    · rw [hhandler]
      exact hserved.calm _
    · exact promises_deal hq hserved (h.format server) count
  collected := h.collected
  reticent := by
    intro i route hscan handler hhandler count r hanswer s es hes
    exact h.reticent i route handler hscan hhandler count r hanswer.returnAddress hanswer.concerns
      s es hes

/-! ### The request goes out -/

/-- The client once the request is listed and posted. -/
def sent (q : Inquiry α β) (n : Node) (a : α) (now : Instant) : Node :=
  let e := q.message n a
  ((n.draw (n.requestMessage (q.letter a) (q.format.write q.asks a))).1.listed q.options e
    now).posted [e]

/-- The request is listed and posted, and the caller waits. -/
theorem beginSend_eq (h : q.Ready t client server) (a : α) (now : Instant) :
    (t.nodes client).beginSend (α := β) (q.letter a) now = (q.sent (t.nodes client) a now,
      .waits ⟨q.id (t.nodes client), (t.nodes client).waitlist.nextTicket,
        q.options.wait.getD (t.nodes client).setup.policy.requestSpan⟩) := by
  have hfree := Waitlist.find?_eq_none_iff.mpr h.new
  -- A node that has drawn a key differs from what it was in its supply only.
  let drawn := ((t.nodes client).draw
    ((t.nodes client).requestMessage (q.letter a) (q.format.write q.asks a))).1
  have hlink : (drawn.listed q.options (q.message (t.nodes client) a) now).setup.link = .bus :=
    h.linked client
  have hdispatch : drawn.dispatch (α := β) q.options (q.message (t.nodes client) a) now = _ :=
    Node.dispatch_of_emitted hfree (Node.emit_eq hlink _)
  -- Somebody waits, so the dispatch does not end with an acceptance.
  rw [h.awaited] at hdispatch
  simp only [Node.beginSend, h.running]
  exact hdispatch

/-- To list and post the request adds one message, outside or inside the client, and nothing else.
-/
theorem adds_sent (q : Inquiry α β) (n : Node) (a : α) (now : Instant) :
    n.Adds ([q.message n a].filter (!·.loopback)) ([q.message n a].filter (·.loopback))
      (q.sent n a now) :=
  ⟨rfl, rfl, fun hsound => hsound, rfl, rfl⟩

/-- The client's waitlist has room for the request. -/
theorem free_deal (h : q.Ready t client server) (a : α) :
    (q.deal t client server a).Free (t.nodes client).waitlist := by
  obtain ⟨callers, hserves⟩ := h.serves
  refine ⟨h.new, fun r hr hticket => ?_⟩
  exact absurd (hserves.ticket_lt (Or.inl (Waitlist.mem_openTickets.mpr ⟨r, hr, hticket⟩)))
    (Nat.lt_irrefl _)

/-- Nothing was delivered to the caller before it waits. -/
theorem outcome?_nextTicket (h : q.Ready t client server) :
    (t.nodes client).waitlist.outcome? (t.nodes client).waitlist.nextTicket = none := by
  obtain ⟨callers, hserves⟩ := h.serves
  refine Option.eq_none_iff_forall_ne_some.mpr fun o ho => ?_
  exact absurd (hserves.ticket_lt (Or.inr (hserves.mem_settledTickets.mpr ⟨o, ho⟩)))
    (Nat.lt_irrefl _)

/-- Only the request is under way. -/
theorem mail_start (h : q.Ready t client server) {now : Instant} {j : Fin k} {e : Envelope}
    (he : e ∈ (t.put client (q.sent (t.nodes client) a now)).mail j)
    (hconcerns : e.isAbout (q.id (t.nodes client)) = true) : e = q.message (t.nodes client) a := by
  rw [Traffic.mail_put h.wired (q.adds_sent _ a now), (q.adds_sent _ a now).outbox] at he
  simp only [List.mem_append] at he
  -- Nothing under this id was under way before, so it can only be what was just posted.
  have hmail : e ∉ t.mail j := fun hmem => by
    rw [h.mail j e hmem] at hconcerns
    exact absurd hconcerns (by simp)
  rcases he with (hqueue | hposted | hout) | hloop | hinside
  · exact absurd (List.mem_append_left _ hqueue) hmail
  · rw [h.posted client e hposted] at hconcerns
    exact absurd hconcerns (by simp)
  · exact List.mem_singleton.mp (List.mem_of_mem_filter hout)
  · exact absurd (List.mem_append_right _ hloop) hmail
  · split at hinside
    · exact List.mem_singleton.mp (List.mem_of_mem_filter hinside)
    · exact absurd hinside (by simp)

/-- The request has come to the server. -/
theorem message_mem_mail (h : q.Ready t client server) (a : α) (now : Instant) :
    q.message (t.nodes client) a ∈ (t.put client (q.sent (t.nodes client) a now)).mail server := by
  rw [Traffic.mail_put h.wired (q.adds_sent _ a now), (q.adds_sent _ a now).outbox]
  -- A request that stays inside comes to the client itself, which is the server then; any other
  -- comes to everybody on the bus.
  cases hloop : (q.message (t.nodes client) a).loopback with
  | true =>
    have hserver : server = client := (proper_deal (a := a) h).inside hloop
    simp [hserver, hloop]
  | false => simp [hloop]

/-- The request waits beside those that waited before. -/
theorem stands_start (h : q.Ready t client server) (a : α) (now : Instant) :
    (q.deal t client server a).Stands (t.nodes client).waitlist
      ((t.put client (q.sent (t.nodes client) a now)).nodes client).waitlist := by
  have hclient : ((t.put client (q.sent (t.nodes client) a now)).nodes client).waitlist =
      (q.sent (t.nodes client) a now).waitlist := by
    simp [Traffic.put]
  rw [hclient]
  refine .waits (r := (t.nodes client).entry q.options (q.message (t.nodes client) a) now) rfl ?_
    rfl (outcome?_nextTicket h)
  -- The request has the next ticket, since it is awaited.
  show (if q.options.detached then none else some _) = _
  rw [h.awaited]
  rfl

/-- Once the request is out, the exchange is under way. -/
theorem holds_start (h : q.Ready t client server) (hq : q.Writable a) (now : Instant) :
    (q.deal t client server a).Holds (t.nodes client).waitlist
      (t.put client (q.sent (t.nodes client) a now)) where
  grounded := (grounded_deal h hq).of_same (Traffic.same_put _ (q.adds_sent _ a now))
  posted := (Function.forall_update_iff t.nodes fun _ m => ∀ e ∈ m.outbox,
      (q.deal t client server a).concerns e = false).mpr
    ⟨by simp, fun j _ => h.posted j⟩
  mail := fun _ _ he hconcerns => Or.inl (mail_start h he hconcerns)
  errands := by
    intro d hd hconcerns
    rw [concerns_deal, h.errands d hd] at hconcerns
    exact absurd hconcerns (by simp)
  free := free_deal h a
  stands := stands_start h a now
  lively := .asked (message_mem_mail h a now)

/-- What there is to do at the start. -/
theorem load_start (h : q.Ready t client server) (a : α) (now : Instant) :
    (q.deal t client server a).load (t.put client (q.sent (t.nodes client) a now)) ≤
      5 * k * (k + 1) := by
  have hmail : ∑ j, ((t.mail j).map (q.deal t client server a).weight).sum = 0 :=
    Finset.sum_eq_zero fun j _ => Deal.sum_weight_of_not_concerns (h.mail j)
  have herrands : ((t.put client (q.sent (t.nodes client) a now)).errands.map
      (q.deal t client server a).effort).sum = 0 := by
    refine List.sum_eq_zero fun w hw => ?_
    obtain ⟨d, hd, rfl⟩ := List.mem_map.mp hw
    have hnone : (q.deal t client server a).concerns d.message = false := h.errands d hd
    simp [Deal.effort, hnone]
  -- Only the request weighs anything.
  have hposted := (q.deal t client server a).sum_weight_posted client (q.message (t.nodes client) a)
  have hweight : (q.deal t client server a).weight (q.message (t.nodes client) a) = 5 * k + 5 :=
    Deal.weight_request (proper_deal h)
  have hsum := Deal.sum_mail_put (x := q.deal t client server a) h.wired (q.adds_sent _ a now)
    (h.posted client)
  have htotal : 5 * k * (k + 1) = k * (5 * k + 5) := by grind
  rw [hweight] at hposted
  rw [htotal]
  unfold Deal.load
  omega

/-! ### The answer comes in -/

/-- A caller that has no outcome goes on waiting. -/
theorem continueSend_of_none {n : Node} {p : Pending} (read : List UInt8 → Except Failure β)
    (hnone : n.waitlist.outcome? p.ticket = none) (first : Glance) :
    n.continueSend read p false first = (n, none) := by
  simp [Node.continueSend, Node.resumeSend, Node.takeOutcome, hnone]

/-- A caller that has the answer reads the function's value in it. -/
theorem continueSend_of_answered (hq : q.Writable a) {n : Node} {p : Pending} {e : Envelope}
    (he : (q.deal t client server a).Answers e)
    (houtcome : n.waitlist.outcome? p.ticket = some (.answered e)) (first : Glance) :
    n.continueSend (q.format.read q.replies) p false first =
      (n.discard p.ticket, some ⟨p.id, q.status, q.text, some (q.answer a)⟩) := by
  have hbody : e.body = q.format.write q.replies (q.answer a) := he.body
  have hfull : (q.format.write q.replies (q.answer a)).isEmpty = false := by
    simpa using PayloadFormat.write_ne_nil hq.occupies (q.answer a)
  have hstatus : e.status = some q.status := he.status
  have htext : e.statusText = some q.text := he.text
  simp [Node.continueSend, Node.resumeSend, Node.takeOutcome, Node.settleSend, houtcome, hbody,
    hfull, hstatus, htext, PayloadFormat.read_write hq.answered]

/-- A text is sent under an id and comes back as it is. -/
def echo : Inquiry String String where
  channel := " Texts"
  kind := "Echo"
  action := "SAY"
  options := { correlation := some "ping-1 " }
  format := .json
  asks := .text
  replies := .text
  answer := fun text => text
  status := 200
  text := "OK"

/-- What answers the text. -/
def echoScript : HandlerScript := { deed := .echo }

/-- A node that has started, with one route. -/
def single (service : String) (pattern : RoutePattern) (handler : Handler) : Node where
  setup := {
    name := "texts"
    service
    policy := .default
    format := .json
    link := .bus
    keepsLog := false
    masterHandlers := []
    masterJobs := []
    jobs := [] }
  running := true
  roster := {
    router := (Router.register (.empty 16) pattern handler none false).1
    timetable := { scheduler := .timed }
    observers := [] }
  candidate := .create "texts" service .default 0
  supply := { scope := 0 }

/-- Node "a" takes answers, and node "b" answers texts. -/
def echoMesh : Traffic 2 where
  nodes
    | 0 => single "a" (.of (some "response") (some "a") none) .answers
    | 1 => single "b" (.of (some "texts") (some "echo") none) (echoScript.toHandler 0)
  connection := Fin.val
  bus := ((Bus.connect {} "a").1.connect "b").1

/-- The script that sends back what it got answers every text like the identity. -/
theorem servedBy_echoScript : echo.ServedBy ⟨0, none, false, fun _ => false, echoScript.run⟩ where
  calm := fun _ => rfl
  answers := by
    intro count r a ha
    have hpayload : r.payload .text = .ok a := ha
    simp only [HandlerScript.run, echoScript, HandlerScript.perform, hpayload]
    rfl

/-- A node with one route finds it for the headers that its pattern matches, and no other. -/
theorem scan_single {service : String} {pattern : RoutePattern} {handler : Handler} {h : Header} :
    (single service pattern handler).roster.router.scan h =
      if pattern.matchesHeader h then some ⟨0, pattern, handler, none, false⟩ else none := by
  show List.find? _ [_] = _
  cases hmatch : pattern.matchesHeader h <;> simp [hmatch, Router.empty]

/-- The two nodes are ready for a text. -/
theorem ready_echo : echo.Ready echoMesh 0 1 where
  wired := ⟨fun i => match i with | 0 => ⟨by decide, by decide⟩ | 1 => ⟨by decide, by decide⟩,
    Fin.val_injective⟩
  linked := fun i => match i with | 0 => rfl | 1 => rfl
  format := fun i => match i with | 0 => rfl | 1 => rfl
  sound := fun i => match i with
    | 0 => (Router.sound_empty 16).register _ _ _ _
    | 1 => (Router.sound_empty 16).register _ _ _ _
  running := rfl
  awaited := rfl
  inside := nofun
  served := by
    refine ⟨_, _, scan_single.trans (if_pos ?_), rfl, servedBy_echoScript⟩
    decide +kernel
  unheard := fun i hi => match i, hi with
    | 0, _ => scan_single.trans (if_neg (by decide +kernel))
    | 1, hi => absurd rfl hi
  collected := ⟨_, scan_single.trans (if_pos (by decide +kernel)), rfl⟩
  reticent := by
    intro i route h hscan hhandler
    match i with
    | 0 =>
      have hroute := scan_single.symm.trans hscan
      rw [if_pos (by decide +kernel)] at hroute
      rw [← Option.some.inj hroute] at hhandler
      exact Handler.noConfusion hhandler
    | 1 =>
      have hroute := scan_single.symm.trans hscan
      rw [if_neg (by decide +kernel)] at hroute
      exact absurd hroute (by simp)
  serves := ⟨[], Waitlist.serves_empty⟩
  new := by simp [echoMesh, single]
  mail := fun i => match i with
    | 0 => by simp [Traffic.mail, echoMesh, single, Bus.inbox, Bus.connect]
    | 1 => by simp [Traffic.mail, echoMesh, single, Bus.inbox, Bus.connect]
  posted := fun i => match i with
    | 0 => by simp [echoMesh, single]
    | 1 => by simp [echoMesh, single]
  errands := by simp [echoMesh]

example : echo.id (echoMesh.nodes 0) = "PING-1" := by decide +kernel

end Inquiry

end CommandMesh
