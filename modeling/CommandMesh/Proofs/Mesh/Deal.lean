import CommandMesh.Proofs.Mesh.Traffic
import Mathlib.Algebra.BigOperators.Group.Finset.Basic
import Mathlib.Algebra.BigOperators.Fin

/-!
# `CommandMesh.Proofs.Mesh.Deal`: one request among the traffic

A `Deal` is a request that was sent, who is to answer it and what the answer says. Messages that
answer to the request's id, or ask for answers under it, concern the deal; while it is under way
there are copies of the request and of the answer among them, and nothing else. `Deal.Asks` and
`Deal.Tells` say of a node's errand with either of them how it will go on. All other traffic may be
anything.

`Deal.Grounded` lists what is assumed about the nodes. They are on the bus, only the server has a
route for the request, its handler gives the one answer, and the client has a route for the answer
that leads to its waiting requests. `Reticent` is the assumption about everybody else: a handler of
the host may hear the answer, on any node, but what it then sends does not go on under the id of the
request. Without it a third node could keep the exchange going for ever. Headers, ids, bodies and
the number of nodes are free, and the client may be its own server.

That an exchange comes to an end is shown by counting. `weight` is how much a message that was not
taken up leaves to do, and `effort` how much an errand does: the answer is five steps for everybody
who gets it, and the request is five more and as many answers as there are nodes. A step with the
deal lowers the sum (`Goes.lighter`), even if everybody gets what is posted; a step with anything
else leaves it. Handlers that fail are covered as far as they hear the answer, which asks for none.

A node goes through the same four stages with either message, so there is one lemma for each stage,
and `goesOn_asks` and `goesOn_tells` say once what a stage has to show in which nothing is posted.

The theorems:

* `handle_answer`: whatever has a route for the answer handles it without a word about the deal.
* `goes_asks`, `goes_tells`: a node goes on with the request, or with the answer. Either way the
  errand comes closer to its end, all that is sent about the deal is the answer, and the client's
  waitlist changes by the answer alone.
-/

set_option autoImplicit false

namespace CommandMesh

/-- The header of what is sent to the address. -/
def ReturnAddress.header (r : ReturnAddress) : Header := .of r.channel r.kind r.action

/-- The list once a message was taken as the answer to a request. -/
def Waitlist.receive (w : Waitlist) (e : Envelope) : Waitlist :=
  match e.inReplyTo with
  | some id => (w.complete id e).getD w
  | none => w

/-- A node that takes a message as an answer gives it to the request that waits for it, if one does.
-/
theorem Node.waitlist_takeAnswer_eq (n : Node) (e : Envelope) :
    (n.takeAnswer e).waitlist = n.waitlist.receive e := by
  unfold takeAnswer Waitlist.receive
  cases e.inReplyTo <;> rfl

/-- Whether a message answers to that id in normal form, or asks for an answer under it. -/
def Envelope.isAbout (e : Envelope) (id : String) : Bool :=
  e.inReplyTo.any (Text.correlationForm · == id) ||
    (e.returnAddress.isSome && Text.correlationForm e.key == id)

/-- A request that was sent, who answers it and what the answer says. -/
structure Deal (k : Nat) where
  client : Fin k
  server : Fin k
  request : Envelope
  /-- Where the answer goes. -/
  back : ReturnAddress
  /-- What the client collects the outcome with. -/
  ticket : Nat
  status : UInt16
  text : String
  body : List UInt8

namespace Deal

variable {k : Nat} {x : Deal k} {n : Node} {e : Envelope} {now : Instant}

/-- The id of the request in normal form. -/
def id (x : Deal k) : String := Text.correlationForm x.request.key

/-- The header of the answer. -/
def answerHeader (x : Deal k) : Header := x.back.header

/-- Whether a message is about the id of the request. -/
def concerns (x : Deal k) (e : Envelope) : Bool := e.isAbout x.id

/-- The message is the answer. -/
structure Answers (x : Deal k) (e : Envelope) : Prop where
  header : e.header = x.answerHeader
  action : e.action = x.back.action
  inReplyTo : e.inReplyTo = some x.request.key
  returnAddress : e.returnAddress = none
  status : e.status = some x.status
  text : e.statusText = some x.text
  body : e.body = x.body
  loopback : e.loopback = x.request.loopback

/-- The request asks for an answer at the client, and stays inside a node only if that is to answer
it. -/
structure Proper (x : Deal k) : Prop where
  asks : x.request.returnAddress = some x.back
  action : x.back.action = Node.answerAction
  inside : x.request.loopback = true → x.server = x.client

/-- The request concerns the deal. -/
theorem concerns_request (h : x.Proper) : x.concerns x.request = true := by
  simp [concerns, Envelope.isAbout, h.asks, id]

/-- The answer concerns the deal. -/
theorem Answers.concerns (h : x.Answers e) : x.concerns e = true := by
  simp [Deal.concerns, Envelope.isAbout, h.inReplyTo, id]

/-- The answer is not the request, for it asks for nothing. -/
theorem Answers.ne_request (h : x.Answers e) (hx : x.Proper) : e ≠ x.request := by
  rintro rfl
  have hnone := h.returnAddress
  rw [hx.asks] at hnone
  exact Option.some_ne_none _ hnone

/-! ### What handlers do -/

/-- The run gives the answer, and nothing else. -/
def Promises (x : Deal k) (run : HandlerRun) : Prop :=
  ∀ s, ∃ e, (run.result.run s).1 = .ok [e] ∧ x.Answers e

/-- The run gives nothing that concerns the deal. -/
def Silent (x : Deal k) (run : HandlerRun) : Prop :=
  ∀ s rs, (run.result.run s).1 = .ok rs → ∀ e ∈ rs, x.concerns e = false

/-- The handler answers the request. -/
def AnsweredBy (x : Deal k) (handler : Handler) (r : Request) : Prop :=
  ∃ h, handler = .host h ∧ ∀ count, x.Promises (h.run (count + 1) r)

/-- The handler may hear the answer, but does not go on about it under the id of the request. -/
def Reticent (x : Deal k) (handler : Handler) : Prop :=
  ∀ h, handler = .host h → ∀ count r, x.Answers r.message → x.Silent (h.run (count + 1) r)

/-! ### Errands -/

/-- A node has taken up the request. Only the server has got any further with it. -/
def Asks (x : Deal k) (d : Errand k) : Prop :=
  d.message = x.request ∧
    match d.stage with
    | .arrived => True
    | .routed route r => d.node = x.server ∧ x.AnsweredBy route.handler r
    | .running _ run => d.node = x.server ∧ x.Promises run
    | .ended _ result => d.node = x.server ∧ ∃ e, result = .ok [e] ∧ x.Answers e

/-- A node has taken up the answer. At the client it goes to the request that waits. -/
def Tells (x : Deal k) (d : Errand k) : Prop :=
  x.Answers d.message ∧
    match d.stage with
    | .arrived => True
    | .routed route r =>
      r.message = d.message ∧ x.Reticent route.handler ∧
        (d.node = x.client → route.handler = .answers)
    | .running _ run => x.Silent run
    | .ended _ result => ∀ rs, result = .ok rs → ∀ e ∈ rs, x.concerns e = false

/-- Where the request and the answer are routed. -/
structure Grounded (x : Deal k) (t : Traffic k) : Prop where
  wired : t.Wired
  linked : ∀ i, (t.nodes i).setup.link = .bus
  sound : ∀ i, (t.nodes i).roster.router.Sound
  /-- No node but the server has a route for the request. -/
  unheard : ∀ i, i ≠ x.server → (t.nodes i).roster.router.scan x.request.header = none
  answered : ∃ route, (t.nodes x.server).roster.router.scan x.request.header = some route ∧
    route.handler.refuses ((t.nodes x.server).requestOf x.request) = false ∧
    x.AnsweredBy route.handler ((t.nodes x.server).requestOf x.request)
  collected : ∃ route, (t.nodes x.client).roster.router.scan x.answerHeader = some route ∧
    route.handler = .answers
  reticent : ∀ i route, (t.nodes i).roster.router.scan x.answerHeader = some route →
    x.Reticent route.handler

/-- The headers that matter to the deal. -/
def heard (x : Deal k) (h : Header) : Prop := h = x.request.header ∨ h = x.answerHeader

/-- What is assumed about the nodes goes on to hold while they are connected as before and alike as
to the headers of the deal. -/
theorem Grounded.of_same {t t' : Traffic k} (h : x.Grounded t) (hs : t.Same x.heard t') :
    x.Grounded t' where
  wired := h.wired.of_same hs
  linked := by
    intro i
    rw [(hs.alike i).setup]
    exact h.linked i
  sound := fun i => (hs.alike i).sound (h.sound i)
  unheard := by
    intro i hi
    rw [(hs.alike i).routes _ (Or.inl rfl)]
    exact h.unheard i hi
  answered := by
    have hrequest : (t'.nodes x.server).requestOf x.request =
        (t.nodes x.server).requestOf x.request := by
      rw [Node.requestOf, Node.requestOf, (hs.alike x.server).setup]
    rw [(hs.alike x.server).routes _ (Or.inl rfl), hrequest]
    exact h.answered
  collected := by
    rw [(hs.alike x.client).routes _ (Or.inr rfl)]
    exact h.collected
  reticent := by
    intro i route hscan
    rw [(hs.alike i).routes _ (Or.inr rfl)] at hscan
    exact h.reticent i route hscan

/-! ### What is left to do -/

/-- What an answer that is still to be given makes for everybody to do. -/
def due (_ : Deal k) (e : Envelope) : Nat := if e.returnAddress.isSome then 5 * k else 0

/-- How much a message that was not taken up leaves to do. -/
def weight (x : Deal k) (e : Envelope) : Nat := if x.concerns e then x.due e + 5 else 0

/-- How much an errand leaves to do. -/
def effort (x : Deal k) (d : Errand k) : Nat :=
  if x.concerns d.message then x.due d.message + d.stage.left else 0

/-- A message that does not concern the deal leaves nothing to do. -/
theorem weight_of_not_concerns (h : x.concerns e = false) : x.weight e = 0 := by
  simp [weight, h]

/-- The answer leaves five steps to do to whoever gets it. -/
theorem Answers.weight (h : x.Answers e) : x.weight e = 5 := by
  simp [Deal.weight, due, h.concerns, h.returnAddress]

/-- Messages that do not concern the deal leave nothing to do together. -/
theorem sum_weight_of_not_concerns {es : List Envelope} (h : ∀ e ∈ es, x.concerns e = false) :
    (es.map x.weight).sum = 0 := by
  refine List.sum_eq_zero fun w hw => ?_
  obtain ⟨e, he, rfl⟩ := List.mem_map.mp hw
  exact weight_of_not_concerns (h e he)

/-- The request leaves its own five steps to do, and five for each node that will get the answer. -/
theorem weight_request (h : x.Proper) : x.weight x.request = 5 * k + 5 := by
  simp [weight, due, concerns_request h, h.asks]

/-- Everybody gets a message that is posted, at most. -/
theorem sum_weight_posted (i : Fin k) (e : Envelope) :
    k * (([e].filter (!·.loopback)).map x.weight).sum +
      (([e].filter (·.loopback)).map x.weight).sum ≤ k * x.weight e := by
  cases hloop : e.loopback with
  | true => simpa [hloop] using Nat.le_mul_of_pos_left (x.weight e) i.pos
  | false => simp [hloop]

/-! ### Going on with an errand -/

/-- What becomes of a node that goes on with an errand, of the errand and of what it posts. -/
structure Goes (x : Deal k) (n : Node) (d : Errand k) (out inside : List Envelope) (n' : Node)
    (s : Option Stage) : Prop where
  adds : n.Adds out inside n'
  answers : ∀ e ∈ out ++ inside, x.concerns e = true → x.Answers e
  /-- There is less to do afterwards, even if everybody gets what is posted on the bus. -/
  lighter : k * (out.map x.weight).sum + (inside.map x.weight).sum +
    (s.map fun s => x.effort { d with stage := s }).getD 0 < x.effort d
  next : ∀ s', s = some s' → x.Asks { d with stage := s' } ∨ x.Tells { d with stage := s' }
  waitlist : d.node = x.client → n'.waitlist = n.waitlist ∨
    x.Answers d.message ∧ n'.waitlist = n.waitlist.receive d.message
  /-- The server goes on with the request until it has answered. -/
  served : d.node = x.server → d.message = x.request → s.isSome = true ∨
    ∃ e, x.Answers e ∧ (e ∈ out ∨ e ∈ inside ∧ x.server = x.client)
  /-- The client goes on with the answer until it has taken it. -/
  told : d.node = x.client → x.Answers d.message → d.stage.isEarly = true →
    (∃ s', s = some s' ∧ s'.isEarly = true) ∨ n'.waitlist = n.waitlist.receive d.message

/-- A node that has taken a message up has something left to do with it. -/
theorem left_pos (s : Stage) : 0 < s.left := by
  cases s <;> exact Nat.succ_pos _

/-- A step in which nothing is posted brings the errand further. -/
theorem lighter_of_left {d : Errand k} {s : Option Stage} (hd : x.concerns d.message = true)
    (hs : ∀ s', s = some s' → s'.left < d.stage.left) :
    k * (([] : List Envelope).map x.weight).sum + (([] : List Envelope).map x.weight).sum +
      (s.map fun s => x.effort { d with stage := s }).getD 0 < x.effort d := by
  cases s with
  | none =>
    have hpos := left_pos d.stage
    simp only [effort, hd, if_true, List.map_nil, List.sum_nil, Option.map_none, Option.getD_none]
    omega
  | some s =>
    have hleft := hs s rfl
    simp only [effort, hd, if_true, List.map_nil, List.sum_nil, Option.map_some, Option.getD_some]
    omega

variable {t : Traffic k} {i : Fin k}

/-- A node goes on with an errand of the deal as it should. -/
def GoesOn (x : Deal k) (t : Traffic k) (d : Errand k) (now : Instant) : Prop :=
  ∃ out inside, x.Goes (t.nodes d.node) d out inside
    ((t.nodes d.node).attend d.message now d.stage).1
    ((t.nodes d.node).attend d.message now d.stage).2

/-! ### Going on with the request -/

/-- A node gets further with the request and posts nothing yet. -/
theorem goesOn_asks {stage stage' : Stage} {n' : Node} (hx : x.Proper)
    (hattend : (t.nodes i).attend x.request now stage = (n', some stage'))
    (hstays : Node.Stays (t.nodes i) n') (hlist : n'.waitlist = (t.nodes i).waitlist)
    (hleft : stage'.left < stage.left) (hasks : x.Asks ⟨i, x.request, stage'⟩) :
    x.GoesOn t ⟨i, x.request, stage⟩ now := by
  refine ⟨[], [], ?_⟩
  dsimp only
  rw [hattend]
  refine ⟨hstays.adds, by simp, lighter_of_left (concerns_request hx) ?_, ?_,
    fun _ => Or.inl hlist, fun _ _ => Or.inl rfl,
    fun _ htells => absurd rfl (htells.ne_request hx)⟩
  · rintro s ⟨⟩
    exact hleft
  · rintro s ⟨⟩
    exact Or.inl hasks

/-- The request arrives: the server goes on with it, and nobody else does. -/
theorem goes_asks_arrived (hx : x.Proper) (hg : x.Grounded t) (i : Fin k) :
    x.GoesOn t ⟨i, x.request, .arrived⟩ now := by
  obtain ⟨route, hscan, hrefuses, hanswered⟩ := hg.answered
  refine ⟨[], [], ?_⟩
  rw [Node.attend_arrived (hg.sound i)]
  refine ⟨(Node.stays_accept _ _ _).adds, by simp, lighter_of_left (concerns_request hx) ?_, ?_,
    fun _ => Or.inl (Node.waitlist_accept _ _ _), ?_,
    fun _ htells => absurd rfl (htells.ne_request hx)⟩
  · intro s hs
    obtain ⟨route', -, rfl⟩ := Option.map_eq_some_iff.mp hs
    exact Nat.lt_succ_self _
  · intro s hs
    obtain ⟨route', hroute, rfl⟩ := Option.map_eq_some_iff.mp hs
    obtain ⟨hroute, -⟩ := Option.filter_eq_some_iff.mp hroute
    -- A route was found, so this is the server: nobody else has one.
    by_cases hi : i = x.server
    · subst hi
      rw [hscan] at hroute
      obtain rfl := Option.some.inj hroute
      exact Or.inl ⟨rfl, rfl, hanswered⟩
    · rw [hg.unheard i hi] at hroute
      exact absurd hroute (by simp)
  · intro hi _
    obtain rfl : i = x.server := hi
    simp [hscan, hrefuses]

/-- The server runs its handler for the request. -/
theorem goes_asks_routed (hx : x.Proper) {route : Route Handler} {r : Request}
    (h : x.AnsweredBy route.handler r) : x.GoesOn t ⟨x.server, x.request, .routed route r⟩ now := by
  obtain ⟨handler, hhandler, hpromises⟩ := h
  obtain ⟨count, hrun, hstays, hlist⟩ := (t.nodes x.server).startRun_eq handler r
  have hattend : (t.nodes x.server).attend x.request now (.routed route r) =
      (((t.nodes x.server).startRun handler r).1,
        some (.running route (handler.run (count + 1) r))) := by
    show (((t.nodes x.server).handle route.handler r now).1, some (Stage.running route _)) = _
    rw [hhandler, ← hrun]
    rfl
  exact goesOn_asks hx hattend hstays hlist (Nat.lt_succ_self _) ⟨rfl, rfl, hpromises count⟩

/-- The handler gives the answer. -/
theorem goes_asks_running (hx : x.Proper) {route : Route Handler} {run : HandlerRun}
    (h : x.Promises run) : x.GoesOn t ⟨x.server, x.request, .running route run⟩ now := by
  obtain ⟨answer, hresult, hanswer⟩ := h (t.nodes x.server).supply
  have hattend : (t.nodes x.server).attend x.request now (.running route run) =
      (((t.nodes x.server).draw run.result).1, some (.ended route (.ok [answer]))) := by
    rw [← hresult]
    rfl
  exact goesOn_asks hx hattend (Node.stays_draw _ _) rfl (Nat.lt_succ_self _)
    ⟨rfl, rfl, answer, rfl, hanswer⟩

/-- The server posts the answer. -/
theorem goes_asks_ended (hx : x.Proper) (hg : x.Grounded t) {route : Route Handler}
    {answer : Envelope} (hanswer : x.Answers answer) :
    x.GoesOn t ⟨x.server, x.request, .ended route (.ok [answer])⟩ now := by
  have hlink := hg.linked x.server
  refine ⟨_, _, Node.adds_conclude_ok hlink route x.request [answer], ?_, ?_, by rintro s ⟨⟩,
    fun _ => Or.inl (Node.waitlist_conclude_ok hlink route x.request [answer]),
    fun _ _ => Or.inr ⟨answer, hanswer, ?_⟩, fun _ htells => absurd rfl (htells.ne_request hx)⟩
  · intro e he _
    rcases List.mem_append.mp he with he | he <;>
      rw [List.mem_singleton.mp (List.mem_of_mem_filter he)] <;> exact hanswer
  · -- Each copy of the answer makes for five steps.
    have hsum := x.sum_weight_posted x.server answer
    have heffort : x.effort ⟨x.server, x.request, .ended route (.ok [answer])⟩ = 5 * k + 1 := by
      simp [effort, due, concerns_request hx, hx.asks, Stage.left]
    rw [hanswer.weight] at hsum
    rw [heffort]
    show _ + 0 < _
    omega
  · cases hloop : answer.loopback with
    | true => exact Or.inr ⟨by simp [hloop], hx.inside (hanswer.loopback.symm.trans hloop)⟩
    | false => exact Or.inl (by simp [hloop])

/-- Whoever goes on with the request does so until it has answered. -/
theorem goes_asks (hx : x.Proper) (hg : x.Grounded t) {d : Errand k} (hd : x.Asks d) :
    x.GoesOn t d now := by
  obtain ⟨i, e, stage⟩ := d
  obtain ⟨hmessage, hstage⟩ := hd
  obtain rfl : e = x.request := hmessage
  -- One lemma for each stage.
  cases stage with
  | arrived => exact goes_asks_arrived hx hg i
  | routed route r =>
    obtain ⟨hi, hanswered⟩ := hstage
    obtain rfl : i = x.server := hi
    exact goes_asks_routed hx hanswered
  | running route run =>
    obtain ⟨hi, hpromises⟩ := hstage
    obtain rfl : i = x.server := hi
    exact goes_asks_running hx hpromises
  | ended route result =>
    obtain ⟨hi, answer, rfl, hanswer⟩ := hstage
    obtain rfl : i = x.server := hi
    exact goes_asks_ended hx hg hanswer

/-! ### Going on with the answer -/

/-- A node gets further with the answer, or is done with it, and posts nothing. -/
theorem goesOn_tells {stage : Stage} {s : Option Stage} {n' : Node} (hx : x.Proper)
    (he : x.Answers e) (hattend : (t.nodes i).attend e now stage = (n', s))
    (hstays : Node.Stays (t.nodes i) n') (hleft : ∀ s', s = some s' → s'.left < stage.left)
    (hnext : ∀ s', s = some s' → x.Tells ⟨i, e, s'⟩)
    (hlist : i = x.client →
      n'.waitlist = (t.nodes i).waitlist ∨ n'.waitlist = (t.nodes i).waitlist.receive e)
    (htold : i = x.client → stage.isEarly = true →
      (∃ s', s = some s' ∧ s'.isEarly = true) ∨ n'.waitlist = (t.nodes i).waitlist.receive e) :
    x.GoesOn t ⟨i, e, stage⟩ now := by
  refine ⟨[], [], ?_⟩
  dsimp only
  rw [hattend]
  exact ⟨hstays.adds, by simp, lighter_of_left he.concerns hleft,
    fun s' hs' => Or.inr (hnext s' hs'),
    fun hi => (hlist hi).imp_right fun hreceive => ⟨he, hreceive⟩,
    fun _ hrequest => absurd hrequest (he.ne_request hx), fun hi _ => htold hi⟩

/-- The answer arrives: a node that has a route for it goes on with it, and the client has one. -/
theorem goes_tells_arrived (hx : x.Proper) (hg : x.Grounded t) (i : Fin k) (he : x.Answers e) :
    x.GoesOn t ⟨i, e, .arrived⟩ now := by
  obtain ⟨route', hscan, hanswers⟩ := hg.collected
  have hattend := Node.attend_arrived (hg.sound i) e now
  rw [he.header] at hattend
  refine goesOn_tells hx he hattend (Node.stays_accept _ _ _) ?_ ?_
    (fun _ => Or.inl (Node.waitlist_accept _ _ _)) ?_
  · intro s hs
    obtain ⟨route, -, rfl⟩ := Option.map_eq_some_iff.mp hs
    exact Nat.lt_succ_self _
  · intro s hs
    obtain ⟨route, hroute, rfl⟩ := Option.map_eq_some_iff.mp hs
    obtain ⟨hroute, -⟩ := Option.filter_eq_some_iff.mp hroute
    refine ⟨he, rfl, hg.reticent i route hroute, fun hi => ?_⟩
    -- At the client the route is its own, for that is the first to match.
    obtain rfl : i = x.client := hi
    rw [hscan] at hroute
    rw [← Option.some.inj hroute]
    exact hanswers
  · rintro rfl -
    refine Or.inl ⟨.routed route' ((t.nodes x.client).requestOf e), ?_, rfl⟩
    simp [hscan, hanswers, Handler.refuses]

/-- Whatever has a route for the answer handles it without a word about the deal. -/
theorem handle_answer (hx : x.Proper) {n : Node} {handler : Handler} {r : Request}
    (hr : x.Answers r.message) (hreticent : x.Reticent handler) (now : Instant) :
    Node.Stays n (n.handle handler r now).1 ∧ x.Silent (n.handle handler r now).2 ∧
      (handler = .answers →
        (n.handle handler r now).1.waitlist = n.waitlist.receive r.message) := by
  have hquiet : x.Silent ⟨0, pure (.ok [])⟩ := by
    rintro s rs ⟨⟩
    simp
  cases handler with
  | answers => exact ⟨n.stays_takeAnswer _, hquiet, fun _ => n.waitlist_takeAnswer_eq _⟩
  | election =>
    -- The action of an answer is no announcement, so the election does not hear it.
    have hunreadable : Announcement.ofText? r.message.action = none := by
      rw [hr.action, hx.action]
      decide +kernel
    have hheard := n.stays_hear_unreadable hunreadable now
    unfold Node.handle
    dsimp only
    generalize n.hear r.message now = heard at hheard ⊢
    obtain ⟨n', cs⟩ := heard
    obtain ⟨hstays, rfl⟩ := hheard
    exact ⟨hstays, hquiet, nofun⟩
  | host h =>
    obtain ⟨count, hrun, hstays, -⟩ := n.startRun_eq h r
    refine ⟨hstays, ?_, by simp⟩
    show x.Silent (n.startRun h r).2
    rw [hrun]
    exact hreticent h rfl count r hr

/-- The route's handler is called with the answer. At the client it takes it. -/
theorem goes_tells_routed (hx : x.Proper) {route : Route Handler} {r : Request}
    (hd : x.Tells ⟨i, e, .routed route r⟩) : x.GoesOn t ⟨i, e, .routed route r⟩ now := by
  obtain ⟨hanswer, hmessage, hreticent, hclient⟩ := hd
  obtain rfl : r.message = e := hmessage
  obtain ⟨hstays, hsilent, hreceive⟩ := handle_answer (n := t.nodes i) hx hanswer hreticent now
  refine goesOn_tells hx hanswer rfl hstays ?_ ?_ (fun hi => Or.inr (hreceive (hclient hi)))
    fun hi _ => Or.inr (hreceive (hclient hi))
  · rintro s ⟨⟩
    exact Nat.lt_succ_self _
  · rintro s ⟨⟩
    exact ⟨hanswer, hsilent⟩

/-- The handler that was called with the answer gives something that is not about the deal. -/
theorem goes_tells_running (hx : x.Proper) {route : Route Handler} {run : HandlerRun}
    (hd : x.Tells ⟨i, e, .running route run⟩) : x.GoesOn t ⟨i, e, .running route run⟩ now := by
  obtain ⟨hanswer, hsilent⟩ := hd
  refine goesOn_tells hx hanswer rfl (Node.stays_draw _ _) ?_ ?_ (fun _ => Or.inl rfl)
    (by simp [Stage.isEarly])
  · rintro s ⟨⟩
    exact Nat.lt_succ_self _
  · rintro s ⟨⟩
    exact ⟨hanswer, fun rs hrs => hsilent _ rs hrs⟩

/-- What the handler gave for the answer is posted. It is not about the deal. -/
theorem goes_tells_ended (hx : x.Proper) (hg : x.Grounded t) {route : Route Handler}
    {responses : List Envelope} (hd : x.Tells ⟨i, e, .ended route (.ok responses)⟩) :
    x.GoesOn t ⟨i, e, .ended route (.ok responses)⟩ now := by
  obtain ⟨hanswer, hsilent⟩ := hd
  have hnone : ∀ {p : Envelope → Bool}, ∀ m ∈ responses.filter p, x.concerns m = false :=
    fun m hm => hsilent responses rfl m (List.mem_of_mem_filter hm)
  refine ⟨_, _, Node.adds_conclude_ok (hg.linked i) route e responses, ?_, ?_, by rintro s ⟨⟩,
    fun _ => Or.inl (Node.waitlist_conclude_ok (hg.linked i) route e responses),
    fun _ hrequest => absurd hrequest (hanswer.ne_request hx), by simp [Stage.isEarly]⟩
  · intro m hm hconcerns
    rw [(List.mem_append.mp hm).elim (hnone m) (hnone m)] at hconcerns
    exact absurd hconcerns (by simp)
  · rw [sum_weight_of_not_concerns hnone, sum_weight_of_not_concerns hnone]
    exact lighter_of_left (s := none) hanswer.concerns (by rintro s ⟨⟩)

/-- Whoever goes on with the answer says no word about the deal, and the client takes it. -/
theorem goes_tells (hx : x.Proper) (hg : x.Grounded t) {d : Errand k} (hd : x.Tells d) :
    x.GoesOn t d now := by
  obtain ⟨i, e, stage⟩ := d
  cases stage with
  | arrived => exact goes_tells_arrived hx hg i hd.1
  | routed route r => exact goes_tells_routed hx hd
  | running route run => exact goes_tells_running hx hd
  | ended route result =>
    cases result with
    | ok responses => exact goes_tells_ended hx hg hd
    -- A handler that fails on the answer tells nobody but its host, for the answer asks for
    -- nothing.
    | error f =>
      have hanswer : x.Answers e := hd.1
      obtain ⟨hstays, hlist⟩ :=
        Node.stays_conclude_error (n := t.nodes i) hanswer.returnAddress route f
      exact goesOn_tells hx hanswer rfl hstays (by rintro s ⟨⟩) (by rintro s ⟨⟩)
        (fun _ => Or.inl hlist) (by simp [Stage.isEarly])

end Deal

end CommandMesh
