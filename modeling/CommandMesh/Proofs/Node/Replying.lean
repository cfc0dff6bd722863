import CommandMesh.Proofs.Mesh.Traffic
import CommandMesh.Proofs.Node.Editing
import CommandMesh.Proofs.Node.Holdings

/-!
# `CommandMesh.Proofs.Node.Replying`: nodes whose handlers do nothing but reply

A handler `Replies` if all that it gives are answers to its own request, made with one of the two
ways that a request has for it. An answer goes the way that the message came: it stays inside the
node exactly if the message did, and it asks for no answer itself (`Envelope.IsReplyTo`).

A node is `Civil` if it takes no part in elections and all of its handlers reply. `Node.Posting n es
n'` says that between two states of a node just these messages were posted, on the bus or inside the
node as each of them says.

A handler of the host may do with a request what it likes, take any time, fail, panic or give no
answer at all; it is only supposed not to make messages up. The handler that takes answers replies
in that sense, since it gives nothing. The one that hears the election does not, which is why civil
nodes take no part in it. A link may be down. Then what is posted to it goes nowhere, and what stays
inside the node is not concerned.

Messages are listed in the order in which they are posted, and what is posted is told even of a step
that posts nothing, so that the statements about steps can be put together to statements about runs
by appending lists. The theorems:

* `goesOut?_eq_none_iff`, `posting_beginSend`: a request goes out unless its caller is told of a
  failure, and what it then posts.
* `posting_attend`: what a message leads to. Only a handler that has ended leads to messages.
* `Civil.attend`, `Civil.perform`: a civil node stays civil, and posts nothing of itself.
* `Blueprint.civil_of_build`: a node that is built of handlers that reply, and takes no part in
  elections, is civil.
-/

set_option autoImplicit false

namespace CommandMesh

/-! ### Replies -/

/-- The message is an answer to the other one, and goes the way that it came. -/
structure Envelope.IsReplyTo (reply e : Envelope) : Prop where
  address : e.returnAddress = some ⟨reply.channel, reply.kind, reply.action⟩
  inReplyTo : reply.inReplyTo = some e.key
  /-- It asks for no answer itself. -/
  returnAddress : reply.returnAddress = none
  loopback : reply.loopback = e.loopback

/-- What is made as an answer to a message is an answer to it. -/
theorem Envelope.isReplyTo_of_replyWithKey {e reply : Envelope} {service key text : String}
    {status : UInt16} (h : e.replyWithKey service key status text = some reply) :
    reply.IsReplyTo e := by
  obtain ⟨r, haddress, rfl⟩ := Option.map_eq_some_iff.mp h
  exact ⟨haddress, rfl, rfl, rfl⟩

namespace Request

variable {r : Request} {reply : Envelope}

/-- The message is what one of the two ways of answering a request gives. -/
inductive Answers (r : Request) (reply : Envelope) : Prop where
  | status {status : UInt16} {text : String} {supply : Supply} :
      ((r.replyStatus status text).run supply).1 = some reply → Answers r reply
  | payload {α : Type} {status : UInt16} {text : String} {w : Wire .value α} {a : α}
      {supply : Supply} :
      ((r.reply status text w a).run supply).1 = some reply → Answers r reply

/-- An answer without a payload is an answer to the message of the request. -/
theorem isReplyTo_of_replyStatus {status : UInt16} {text : String} {supply : Supply}
    (h : ((r.replyStatus status text).run supply).1 = some reply) : reply.IsReplyTo r.message := by
  unfold replyStatus Envelope.reply at h
  cases hr : r.message.returnAddress with
  | none =>
    rw [hr] at h
    cases h
  | some _ =>
    rw [hr] at h
    exact Envelope.isReplyTo_of_replyWithKey h

/-- A payload changes the body only. -/
theorem Answers.isReplyTo (h : r.Answers reply) : reply.IsReplyTo r.message := by
  cases h with
  | status h => exact isReplyTo_of_replyStatus h
  | @payload _ status text _ _ supply h =>
    obtain ⟨bare, hbare, rfl⟩ : ∃ bare, ((r.replyStatus status text).run supply).1 = some bare ∧
        { bare with body := _ } = reply := Option.map_eq_some_iff.mp h
    have hreply := isReplyTo_of_replyStatus hbare
    exact ⟨hreply.address, hreply.inReplyTo, hreply.returnAddress, hreply.loopback⟩

end Request

/-- Whatever a run of the handler gives are answers to its request. A run that fails gives none. -/
def HostHandler.Replies (h : HostHandler) : Prop :=
  ∀ count r supply replies, ((h.run count r).result.run supply).1 = .ok replies →
    ∀ reply ∈ replies, r.Answers reply

/-- The handler is one of the host that replies, or takes answers to the node's own requests. -/
def Handler.Replies : Handler → Prop
  | .answers => True
  | .election => False
  | .host h => h.Replies

/-! ### Tables -/

namespace Router

variable {H : Type} {p : H → Prop} {t t' : Router H}

/-- The table is sound, and all of its handlers are such. -/
structure Only (p : H → Prop) (t : Router H) : Prop where
  sound : t.Sound
  handlers : ∀ r ∈ t.routes, p r.handler

/-- A table with the same routes has handlers of the same kind. -/
theorem Only.of_routes (h : t.Only p) (hsound : t'.Sound) (hroutes : t'.routes = t.routes) :
    t'.Only p :=
  ⟨hsound, hroutes ▸ h.handlers⟩

/-- An empty table has no handlers of another kind. -/
theorem only_empty (p : H → Prop) (capacity : Nat) : (empty capacity : Router H).Only p :=
  ⟨sound_empty capacity, fun _ hr => absurd hr List.not_mem_nil⟩

/-- A route that is registered with a handler of that kind leaves the table so. -/
theorem Only.register (h : t.Only p) {handler : H} (hp : p handler) (pattern : RoutePattern)
    (reference : Option String) (masterOnly : Bool) :
    (t.register pattern handler reference masterOnly).1.Only p := by
  refine ⟨h.sound.register pattern handler reference masterOnly, fun r hr => ?_⟩
  rcases List.mem_append.mp hr with hr | hr
  · exact h.handlers r hr
  · rw [List.mem_singleton.mp hr]
    exact hp

/-- A route that is removed leaves the table so. -/
theorem Only.unregister (h : t.Only p) (pattern : RoutePattern) (masterOnly : Bool) :
    ((t.unregister pattern masterOnly).getD t).Only p := by
  cases hremoved : t.unregister pattern masterOnly with
  | none => exact h
  | some t' =>
    refine ⟨h.sound.unregister hremoved, fun r hr => ?_⟩
    obtain ⟨_, _, rfl⟩ := Option.map_eq_some_iff.mp hremoved
    exact h.handlers r (List.mem_of_mem_eraseP hr)

/-- Whatever a header resolves to is a handler of the table. -/
theorem Only.of_scan (h : t.Only p) {header : Header} {r : Route H}
    (hfound : t.scan header = some r) : p r.handler :=
  h.handlers r (List.mem_of_find?_eq_some hfound)

end Router

namespace Roster

variable {p : Handler → Prop} {r : Roster Handler}

/-- Routes that are added in turn, with handlers of that kind, leave the table so. -/
theorem only_addRoutes {ds : List Definition} (hds : ∀ d ∈ ds, p d.handler) (h : r.router.Only p) :
    (ds.foldl (fun r d => (r.addRoute d.pattern d.handler none false).1) r).router.Only p := by
  induction ds generalizing r with
  | nil => exact h
  | cons d ds ih =>
    obtain ⟨hd, hds⟩ := List.forall_mem_cons.mp hds
    exact ih hds (h.register hd d.pattern none false)

/-- Routes that are removed in turn leave the table so. -/
theorem only_removeRoutes (ps : List RoutePattern) (h : r.router.Only p) :
    (ps.foldl (fun r q => (r.removeRoute q false).getD r) r).router.Only p := by
  induction ps generalizing r with
  | nil => exact h
  | cons q ps ih => exact ih (by rw [Roster.router_removeRoute]; exact h.unregister q false)

end Roster

/-! ### Posts -/

namespace Node

variable {n n' m : Node} {α : Type} {es : List Envelope}

/-- These messages were posted, on the bus if it takes them, or inside the node. -/
structure Posting (n : Node) (es : List Envelope) (n' : Node) : Prop where
  setup : n'.setup = n.setup
  outbox : n'.outbox = n.outbox ++ es.filter fun e => !e.loopback && n.setup.link == .bus
  loopback : n'.loopback = n.loopback ++ es.filter (·.loopback)

/-- A node whose queues stay as they are has posted nothing. -/
theorem Posting.of_same (hsetup : n'.setup = n.setup) (houtbox : n'.outbox = n.outbox)
    (hloopback : n'.loopback = n.loopback) : n.Posting [] n' :=
  ⟨hsetup, houtbox.trans (List.append_nil _).symm, hloopback.trans (List.append_nil _).symm⟩

/-- A node that does nothing posts nothing. -/
theorem Posting.refl (n : Node) : n.Posting [] n := .of_same rfl rfl rfl

/-- What is posted in two steps is what is posted in the first and then in the second. -/
theorem Posting.trans {es' : List Envelope} (h : n.Posting es m) (h' : m.Posting es' n') :
    n.Posting (es ++ es') n' where
  setup := h'.setup.trans h.setup
  outbox := by rw [h'.outbox, h.outbox, h.setup, List.filter_append, List.append_assoc]
  loopback := by rw [h'.loopback, h.loopback, List.filter_append, List.append_assoc]

/-- A node that has stayed as it was has posted nothing. -/
theorem Stays.posting (h : n.Stays n') : n.Posting [] n' :=
  .of_same h.setup h.outbox h.loopback

/-- What posts nothing does not matter to what is posted after it. -/
theorem Posting.after (h : m.Posting es n') (hm : n.Posting [] m) : n.Posting es n' := hm.trans h

/-- A message that is put on its way is posted, even if the link is down. -/
theorem posting_emitOrReport (n : Node) (e : Envelope) (text : String) :
    n.Posting [e] (n.emitOrReport e text) := by
  rw [emitOrReport_eq]
  refine ⟨rfl, ?_, ?_⟩
  · rw [List.filter_singleton, Bool.cond_eq_ite]
  · rw [List.filter_singleton, Bool.cond_eq_ite]

/-- Messages that are put on their way in turn are posted in that order. -/
theorem posting_emitAll (n : Node) (e : Envelope) (replies : List Envelope) :
    n.Posting replies (n.emitAll e replies) := by
  unfold emitAll
  induction replies generalizing n with
  | nil => exact Posting.refl n
  | cons r replies ih => exact (posting_emitOrReport n r _).trans (ih _)

/-- The messages that a handler's end leads to. -/
def repliesOf (n : Node) (e : Envelope) : Except Fault (List Envelope) → List Envelope
  | .ok replies => replies
  | .error _ => (n.faultReply e).toList

/-- The end of a handler posts its answers, or what tells of its fault. -/
theorem posting_conclude (n : Node) (route : Route Handler) (e : Envelope)
    (result : Except Fault (List Envelope)) :
    n.Posting (n.repliesOf e result) (n.conclude route e result).1 := by
  cases result with
  | ok replies => exact n.posting_emitAll e replies
  | error f =>
    have hfaulted := n.faulted_conclude route e f
    have hsetup : (n.conclude route e (.error f)).1.setup = n.setup :=
      (congrArg (·.setup) hfaulted.rest).symm
    exact ⟨hsetup, hfaulted.outbox, hfaulted.loopback⟩

/-- The message of a request that goes out: the node is running, the payload can be written, and no
other request waits under the same id. -/
def goesOut? (n : Node) (l : Letter) : Option Envelope :=
  match n.running, l.body with
  | true, .ok body =>
    let e := n.letterMessage l body
    if (n.waitlist.find? (Text.correlationForm e.key)).isSome then none else some e
  | _, _ => none

/-- A message that is taken is posted. -/
theorem posting_of_emit {e : Envelope} (h : n.emit e = .ok n') : n.Posting [e] n' := by
  have hreported := n.posting_emitOrReport e ""
  rwa [emitOrReport, h] at hreported

/-- Requests that come and go leave the setup of the node. -/
theorem setup_of_serves (h : n.Serves n') : n'.setup = n.setup := congrArg (·.setup) h.footing

/-- A message that can be listed is posted. If the link is down, that takes nothing. -/
theorem posting_dispatch {options : SendOptions} {e : Envelope} (now : Instant)
    (h : n.waitlist.find? (Text.correlationForm e.key) = none) :
    n.Posting [e] (n.dispatch (α := α) options e now).1 := by
  have hsetup := setup_of_serves (n.serves_dispatch (α := α) options e now)
  cases hemit : (n.listed options e now).emit e with
  | ok n' =>
    have hposted := posting_of_emit hemit
    rw [dispatch_of_emitted h hemit]
    exact ⟨hposted.setup, hposted.outbox, hposted.loopback⟩
  | error reason =>
    have hkeeps := ((n.listed options e now).retractSend (n.entry options e now).id
      (n.entry options e now).ticket).keeps_faultResponse (α := α) (n.entry options e now).id
        "Dispatch failed" reason
    rcases (n.listed options e now).emit_cases e with ⟨_, hok, -, -⟩ | ⟨_, -, hinside, hlink⟩
    · rw [hemit] at hok
      cases hok
    · -- A message that is to stay inside is always taken, so this one was for the link.
      have hlink : n.setup.link = .dead _ := hlink
      -- The entry is taken back and the caller told; neither puts anything into a queue.
      refine ⟨hsetup, ?_, ?_⟩
      · rw [dispatch_of_stuck h hemit, hkeeps.outbox, outbox_retractSend]
        simp [hlink, listed]
      · rw [dispatch_of_stuck h hemit, hkeeps.loopback, loopback_retractSend]
        simp [hinside, listed]

/-- How a request begins: it is refused and nothing is posted, or its message is dispatched. -/
theorem beginSend_of_goesOut? (n : Node) (l : Letter) (now : Instant) :
    (∃ (f : Failure) (m : Node), n.goesOut? l = none ∧ n.Posting [] m ∧
      n.beginSend (α := α) l now = (m, .failed f)) ∨
    ∃ e m, n.goesOut? l = some e ∧ n.Posting [] m ∧
      m.waitlist.find? (Text.correlationForm e.key) = none ∧
      n.beginSend (α := α) l now = m.dispatch l.options e now := by
  cases hrun : n.running with
  | false =>
    refine Or.inl ⟨.notStarted n.setup.name, n, ?_, Posting.refl n, by simp [beginSend, hrun]⟩
    rw [goesOut?, hrun]
  | true =>
    cases hbody : l.body with
    | error f =>
      refine Or.inl ⟨f, n, ?_, Posting.refl n, by simp [beginSend, hrun, hbody]⟩
      rw [goesOut?, hrun, hbody]
    | ok body =>
      -- The key is drawn before the list is looked at, so also a refused request uses randomness
      -- up.
      let drawn := (n.draw (n.requestMessage l body)).1
      have hdrawn : n.Posting [] drawn := (n.stays_draw (n.requestMessage l body)).posting
      have hsent : n.beginSend (α := α) l now =
          drawn.dispatch l.options (n.letterMessage l body) now := by
        simp [beginSend, hrun, hbody, drawn, letterMessage]
      rw [goesOut?, hrun, hbody]
      dsimp only
      cases hfind : n.waitlist.find? (Text.correlationForm (n.letterMessage l body).key) with
      | some r =>
        exact Or.inl ⟨_, drawn, rfl, hdrawn, hsent.trans (dispatch_of_some (n := drawn) hfind)⟩
      | none => exact Or.inr ⟨_, drawn, rfl, hdrawn, hfind, hsent⟩

/-- What a request leads to at once. -/
theorem posting_beginSend (n : Node) (l : Letter) (now : Instant) :
    n.Posting (n.goesOut? l).toList (n.beginSend (α := α) l now).1 := by
  rcases n.beginSend_of_goesOut? (α := α) l now with
    ⟨f, m, hnone, hm, hsent⟩ | ⟨e, m, hsome, hm, hfree, hsent⟩
  · rw [hsent, hnone]
    exact hm
  · rw [hsent, hsome]
    exact (posting_dispatch now hfree).after hm

/-- A request does not go out exactly if its caller is told of a failure at once. -/
theorem goesOut?_eq_none_iff (n : Node) (l : Letter) (now : Instant) :
    n.goesOut? l = none ↔ ∃ f, (n.beginSend (α := α) l now).2 = .failed f := by
  rcases n.beginSend_of_goesOut? (α := α) l now with
    ⟨f, m, hnone, -, hsent⟩ | ⟨e, m, hsome, -, hfree, hsent⟩
  · exact iff_of_true hnone ⟨f, by rw [hsent]⟩
  · -- A message that is dispatched is waited for or has ended with a response.
    refine iff_of_false (by simp [hsome]) ?_
    rintro ⟨f, hf⟩
    rw [hsent] at hf
    -- A link that does not take the message leads to a response that tells of the fault.
    cases hemit : (m.listed l.options e now).emit e with
    | ok m' =>
      rw [dispatch_of_emitted hfree hemit] at hf
      cases hdetached : l.options.detached <;> simp [hdetached] at hf
    | error reason =>
      rw [dispatch_of_stuck hfree hemit] at hf
      cases hf

/-! ### Civil nodes -/

/-- The node takes no part in elections, and all of its handlers reply. -/
structure Civil (n : Node) : Prop where
  off : n.setup.policy.election.enabled = false
  disabled : n.candidate.standing = .disabled
  router : n.roster.router.Only Handler.Replies

/-- A node is civil if its setup and its part in the election are those of a civil one and its
handlers reply. -/
theorem Civil.of_router (hn : n.Civil) (hsetup : n'.setup = n.setup)
    (hcandidate : n'.candidate = n.candidate) (hrouter : n'.roster.router.Only Handler.Replies) :
    n'.Civil :=
  ⟨hsetup ▸ hn.off, hcandidate ▸ hn.disabled, hrouter⟩

/-- A node on the footing of a civil one is civil. -/
theorem Civil.of_footing (hn : n.Civil) (h : n'.footing = n.footing)
    (hsound : n'.roster.router.Sound) : n'.Civil :=
  hn.of_router (congrArg (·.setup) h) (congrArg (·.candidate) h)
    (hn.router.of_routes hsound (congrArg (·.routes) h))

/-- Requests come and go without any change to handlers. -/
theorem Civil.of_serves (hn : n.Civil) (h : n.Serves n') (hroster : n'.roster = n.roster) :
    n'.Civil :=
  hn.of_router (setup_of_serves h) (congrArg (·.candidate) h.footing) (hroster ▸ hn.router)

/-- A civil node that begins a request stays civil. -/
theorem Civil.beginSend (hn : n.Civil) (l : Letter) (now : Instant) :
    (n.beginSend (α := α) l now).1.Civil :=
  hn.of_serves (n.serves_beginSend l now) (n.roster_beginSend l now)

end Node

/-! ### Messages that are taken up -/

/-- What is still to come of the handler of the message are replies to it. -/
def Stage.Fits (e : Envelope) : Stage → Prop
  | .arrived => True
  | .routed route request => route.handler.Replies ∧ request.message = e
  | .running _ run => ∀ supply replies, (run.result.run supply).1 = .ok replies →
    ∀ reply ∈ replies, reply.IsReplyTo e
  | .ended _ result => ∀ replies, result = .ok replies → ∀ reply ∈ replies, reply.IsReplyTo e

namespace Node

variable {n n' : Node} {e : Envelope} {now : Instant} {stage : Stage}

/-- The messages that a stage of the handling of a message leads to. -/
def repliesAt (n : Node) (e : Envelope) : Stage → List Envelope
  | .ended _ result => n.repliesOf e result
  | .arrived | .routed _ _ | .running _ _ => []

/-- A handler that replies posts nothing of itself when it begins. -/
theorem stays_handle {h : Handler} (hreplies : h.Replies) (r : Request) (now : Instant) :
    n.Stays (n.handle h r now).1 := by
  cases h with
  | answers => exact n.stays_takeAnswer r.message
  | election => exact hreplies.elim
  | host h => exact (n.startRun_eq h r).choose_spec.2.1

/-- All that such a handler gives when its run is over are answers to its request. -/
theorem answers_handle (n : Node) (now : Instant) {h : Handler} (hreplies : h.Replies)
    {r : Request} {supply : Supply} {replies : List Envelope}
    (hresult : ((n.handle h r now).2.result.run supply).1 = .ok replies) :
    ∀ reply ∈ replies, r.Answers reply := by
  cases h with
  -- The node's own handler settles a request and gives no messages.
  | answers =>
    obtain rfl := Except.ok.inj hresult
    exact fun _ hreply => absurd hreply List.not_mem_nil
  | election => exact hreplies.elim
  | host h =>
    obtain ⟨count, hrun, -⟩ := n.startRun_eq h r
    rw [handle, hrun] at hresult
    exact hreplies (count + 1) r supply replies hresult

/-- A civil node stays civil as one of its handlers begins. -/
theorem Civil.handle (hn : n.Civil) {h : Handler} (hreplies : h.Replies) (r : Request)
    (now : Instant) : (n.handle h r now).1.Civil := by
  have hstays := n.stays_handle hreplies r now
  have hcandidate : (n.handle h r now).1.candidate = n.candidate := by
    cases h with
    | answers => exact congrArg (·.candidate) (n.serves_takeAnswer r.message).footing
    | election => exact hreplies.elim
    | host h => exact congrArg (·.candidate) (n.footing_startRun h r)
  exact hn.of_router hstays.setup hcandidate
    (hn.router.of_routes (hstays.sound hn.router.sound) hstays.routes)

/-- Only a handler that has ended leads to messages. -/
theorem posting_attend (n : Node) (now : Instant) (hstage : stage.Fits e) :
    n.Posting (n.repliesAt e stage) (n.attend e now stage).1 := by
  cases stage with
  -- To accept a message is to find its route and to count it, whatever is found.
  | arrived =>
    have haccept := (n.stays_accept e now).posting
    unfold attend
    dsimp only
    generalize n.accept e now = accepted at haccept ⊢
    obtain ⟨m, _ | _ | _⟩ := accepted <;> exact haccept
  | routed route request => exact (n.stays_handle hstage.1 request now).posting
  | running route run => exact (n.stays_draw run.result).posting
  | ended route result => exact n.posting_conclude route e result

/-- A civil node stays civil, whatever it does with a message. -/
theorem Civil.attend (hn : n.Civil) (now : Instant) (hstage : stage.Fits e) :
    (n.attend e now stage).1.Civil := by
  cases stage with
  | arrived =>
    have haccept := hn.of_footing (n.footing_accept e now)
      ((n.stays_accept e now).sound hn.router.sound)
    unfold Node.attend
    dsimp only
    generalize n.accept e now = accepted at haccept ⊢
    obtain ⟨m, _ | _ | _⟩ := accepted <;> exact haccept
  | routed route request => exact hn.handle hstage.1 request now
  | running route run => exact hn.of_router rfl rfl hn.router
  -- Only the counts of the route change, if the handler has failed.
  | ended route result =>
    refine hn.of_footing (n.footing_conclude route e result) ?_
    cases result with
    | ok replies =>
      rw [Node.attend, conclude, roster_emitAll]
      exact hn.router.sound
    | error f =>
      show (n.conclude route e (.error f)).1.roster.router.Sound
      rw [(n.faulted_conclude route e f).roster]
      exact hn.router.sound.count route.number Tally.failed

/-- What is to come of a handler stays a reply to its message. -/
theorem Civil.fits_attend (hn : n.Civil) (now : Instant) (hstage : stage.Fits e) {next : Stage}
    (hnext : (n.attend e now stage).2 = some next) : next.Fits e := by
  cases stage with
  | arrived =>
    rw [attend_arrived hn.router.sound] at hnext
    -- The route that was found is one of the table, whose handlers all reply.
    obtain ⟨route, hroute, rfl⟩ := Option.map_eq_some_iff.mp hnext
    exact ⟨hn.router.of_scan (Option.filter_eq_some_iff.mp hroute).1, rfl⟩
  | routed route request =>
    obtain ⟨hreplies, rfl⟩ := hstage
    obtain rfl := Option.some.inj hnext
    intro supply replies hresult reply hreply
    exact (n.answers_handle now hreplies hresult reply hreply).isReplyTo
  | running route run =>
    obtain rfl := Option.some.inj hnext
    exact fun replies hresult => hstage n.supply replies hresult
  | ended route result => cases hnext

/-! ### Whatever else a civil node does -/

/-- Nothing is posted, and the node is civil. -/
structure Calm (n n' : Node) : Prop where
  posting : n.Posting [] n'
  civil : n'.Civil

/-- A civil node that does nothing is calm. -/
theorem Civil.calm (hn : n.Civil) : n.Calm n := ⟨.refl n, hn⟩

/-- What is calm twice in turn is calm. -/
theorem Calm.trans {m : Node} (h : n.Calm m) (h' : m.Calm n') : n.Calm n' :=
  ⟨h.posting.trans h'.posting, h'.civil⟩

/-- Steps in turn are calm if each is calm on a civil node. -/
theorem calm_foldl {β : Type} {f : Node → β → Node}
    (h : ∀ (n : Node) (b : β), n.Civil → n.Calm (f n b))
    (hn : n.Civil) (bs : List β) : n.Calm (bs.foldl f n) := by
  induction bs generalizing n with
  | nil => exact hn.calm
  | cons b bs ih => exact (h n b hn).trans (ih (h n b hn).civil)

/-- A change to the roster that leaves the table with handlers that reply. -/
theorem Civil.withRoster (hn : n.Civil) {roster : Roster Handler}
    (h : roster.router.Only Handler.Replies) : n.Calm { n with roster } :=
  ⟨.of_same rfl rfl rfl, hn.of_router rfl rfl h⟩

/-- Adding a job is calm. -/
theorem Civil.addJob (hn : n.Civil) (job : Job) : n.Calm (n.addJob job) :=
  hn.withRoster (by rw [Roster.router_addJob]; exact hn.router)

/-- Starting a civil node is calm: its own routes have handlers that reply. -/
theorem Civil.start (hn : n.Civil) : n.Calm (n.start.toOption.getD n) := by
  unfold Node.start
  split
  · exact hn.calm
  · let started : Node := { n with running := true, pumping := true }
    have hrunning : n.Calm started :=
      ⟨.of_same rfl rfl rfl, hn.of_router rfl rfl hn.router⟩
    have hanswering : Handler.answers.Replies := trivial
    let answering := started.addOwnRoute n.answerPattern .answers "outgoing-response"
    have hanswers : started.Calm answering :=
      ⟨.of_same rfl rfl rfl,
        hn.of_router rfl rfl (hn.router.register hanswering n.answerPattern _ false)⟩
    -- The node takes no part in the election, so it registers nothing for it.
    have helection {m : Node} (hm : m.Civil) : m.startElection = m := by
      rw [startElection, hm.off]
      rfl
    have hstarted := hrunning.trans hanswers
    have hsweep := hstarted.civil.addJob answering.sweepJob
    have hjobs := calm_foldl (fun _ job hm => hm.addJob job) hsweep.civil answering.setup.jobs
    show n.Calm (answering.startElection.setup.jobs.foldl Node.addJob
      (answering.startElection.addJob answering.startElection.sweepJob))
    rw [helection hstarted.civil]
    exact (hstarted.trans hsweep).trans hjobs

/-- Removing a route is calm. -/
theorem Civil.removeRoute (hn : n.Civil) (pattern : RoutePattern) (masterOnly : Bool) :
    n.Calm { n with roster := (n.roster.removeRoute pattern masterOnly).getD n.roster } :=
  hn.withRoster (by rw [Roster.router_removeRoute]; exact hn.router.unregister pattern masterOnly)

/-- A node without part in the election is not master, so it has nothing to resign from. -/
theorem Civil.stopMaster_eq_none (hn : n.Civil) (now : Instant) : n.stopMaster now = none := by
  simp [stopMaster, Candidate.deactivate, hn.disabled]

/-- Clearing the tables of a civil node is calm, and its new part in the election is none again. -/
theorem Civil.clear (hn : n.Civil) (now : Instant) : n.Calm (n.clear now) := by
  have hjobs : n.Calm { n with roster := n.roster.tearDown.1 } :=
    hn.withRoster (by rw [Roster.tearDown, Roster.router_removeJobs]; exact hn.router)
  -- The election begins anew, and as it is off the node takes no part in it.
  refine ⟨.of_same rfl rfl rfl, hn.off, ?_,
    Roster.only_removeRoutes n.ownRoutes hjobs.civil.router⟩
  show (Candidate.create _ _ n.setup.policy.election now).standing = .disabled
  rw [Candidate.create, hn.off]
  rfl

/-- Stopping a civil node is calm. -/
theorem Civil.stop (hn : n.Civil) (now : Instant) : n.Calm ((n.stop now).toOption.getD n) := by
  cases hrun : n.running with
  | false =>
    have hfailed : n.stop now = .error (.notStarted n.setup.name) := by simp [Node.stop, hrun]
    rw [hfailed]
    exact hn.calm
  | true =>
    have hhalted : n.Calm { n with running := false } :=
      ⟨.of_same rfl rfl rfl, hn.of_router rfl rfl hn.router⟩
    rw [stop_of_running hrun, hhalted.civil.stopMaster_eq_none]
    exact hhalted.trans (hhalted.civil.clear now)

end Node

/-- The node does not post anything of itself, and gets no handlers but such that reply: it is not
made master, and takes no messages up. -/
def Activity.IsPlain : Activity → Prop
  | .addRoute _ handler _ _ => handler.Replies
  | .handle _ _ _ | .startMaster _ | .send _ _ | .flush | .pump => False
  | .draw _ | .poll _ _ | .stopMaster _ | .start | .stop _ | .sweep _ | .removeRoute _ _
  | .addJob _ | .removeJob _ | .drive _ | .resume _ _ _ _ | .inspect => True

namespace Node

variable {n : Node}

/-- A request that goes on posts nothing. -/
theorem keeps_continueSend {α : Type} (n : Node) (read : List UInt8 → Except Failure α)
    (p : Pending) (cancelled : Bool) (first : Glance) :
    (n.continueSend read p cancelled first).1.outbox = n.outbox ∧
      (n.continueSend read p cancelled first).1.loopback = n.loopback := by
  have htaken (m : Node) :
      (m.takeOutcome p).1.outbox = m.outbox ∧ (m.takeOutcome p).1.loopback = m.loopback := by
    unfold takeOutcome
    split <;> exact ⟨rfl, rfl⟩
  have hresumed : (n.resumeSend p cancelled first).1.outbox = n.outbox ∧
      (n.resumeSend p cancelled first).1.loopback = n.loopback := by
    unfold resumeSend
    dsimp only
    split
    · exact htaken (n.cancelSend p.id)
    · exact htaken n
  -- What is left is how the caller is told, which changes the list of requests only.
  cases h : n.resumeSend p cancelled first with
  | mk m o =>
    rw [h] at hresumed
    cases o with
    | none =>
      rw [continueSend_of_none h]
      exact hresumed
    | some o =>
      have hsettled := m.keeps_settleSend read p o
      rw [continueSend_of_some h]
      exact ⟨hsettled.outbox.trans hresumed.1, hsettled.loopback.trans hresumed.2⟩

/-- Of itself a civil node posts nothing, and it stays civil. -/
theorem Civil.perform (hn : n.Civil) {a : Activity} (ha : a.IsPlain) : n.Calm (n.perform a).1 := by
  cases a with
  | handle | startMaster | send | flush | pump => exact ha.elim
  | draw f => exact ⟨(n.stays_draw f).posting, hn.of_router rfl rfl hn.router⟩
  -- Who takes no part in the election has nothing to announce.
  | poll now draw =>
    have hpoll : n.poll now draw = (n, none) := by
      simp [poll, tick, Candidate.poll, hn.disabled]
    show n.Calm (n.poll now draw).1
    rw [hpoll]
    exact hn.calm
  | stopMaster now =>
    show n.Calm ((n.stopMaster now).getD n)
    rw [hn.stopMaster_eq_none]
    exact hn.calm
  | start => exact hn.start
  | stop now => exact hn.stop now
  | sweep now | inspect =>
    exact ⟨.of_same rfl rfl rfl, hn.of_router rfl rfl hn.router⟩
  | addRoute pattern handler reference masterOnly =>
    exact hn.withRoster (hn.router.register ha pattern reference masterOnly)
  | removeRoute pattern masterOnly => exact hn.removeRoute pattern masterOnly
  | addJob job => exact hn.addJob job
  | removeJob k =>
    exact hn.withRoster (by rw [Roster.router_removeJob]; exact hn.router)
  | drive f => exact hn.withRoster hn.router
  | resume read p cancelled first =>
    have hserves := n.serves_continueSend read p cancelled first
    have hkeeps := n.keeps_continueSend read p cancelled first
    exact ⟨.of_same (setup_of_serves hserves) hkeeps.1 hkeeps.2,
      hn.of_serves hserves (n.roster_continueSend read p cancelled first)⟩

end Node

/-- A node that is built of handlers that reply, and takes no part in elections, is civil. -/
theorem Blueprint.civil_of_build {b : Blueprint} {supply : Supply} {now : Instant} {n : Node}
    (h : b.build supply now = .ok n) (hoff : b.policy.election.enabled = false)
    (hreplies : ∀ d ∈ b.handlers, d.handler.Replies) :
    n.Civil ∧ n.outbox = [] ∧ n.loopback = [] := by
  unfold build at h
  dsimp only at h
  split at h
  · simp at h
  · split at h
    · simp at h
    · rw [← Except.ok.inj h]
      refine ⟨⟨hoff, ?_, Roster.only_addRoutes hreplies (Router.only_empty _ _)⟩, rfl, rfl⟩
      show (Candidate.create _ _ b.policy.election now).standing = .disabled
      rw [Candidate.create, hoff]
      rfl

end CommandMesh
