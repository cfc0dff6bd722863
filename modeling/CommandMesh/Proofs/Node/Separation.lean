import CommandMesh.Proofs.Node.Replying

/-!
# `CommandMesh.Proofs.Node.Separation`: what is inside a node stays there

A `Circuit` is a node with the messages that it has taken up, and a record of where each message
began: the bus brought it, or it goes back to a request of the node, sent outside or inside. What is
posted in a step goes back to where the message began that the step is about. `handed` and `looped`
are read off the node's own queues after each step; `occasions` says what was done, apart from any
queue: which requests went out, and what each handler that ended has led to.

A link may be down. What a step hands to the link is therefore read off the same step of the same
node over a link that takes everything (`Node.connected`), and what a link that is up has really
been given is compared with it.

It is supposed that the node takes no part in elections and that its handlers, whatever they do,
give nothing but answers (`Node.Civil`); that the bus brings no message that is marked to stay
inside a node, as no node hands such a message to its link; and that nothing else is done to the
node that sends messages by itself. Messages are handled side by side, in stages and in any order.

The invariant is `Apart`. It ties the record to the node: whatever waits inside began inside and is
marked so, every message that is being handled carries the mark that belongs to where it began, and
what was handed out and looped is just what the occasions lead to. That answers go the way of their
messages is known of each handler; the invariant makes of it that nothing that began inside ever
gets out, at however many removes. The theorems:

* `Apart.step`, `apart_run`: the two kinds of traffic are apart after every run.
* `quiet_attend`: a message that asks for no answer leads to nothing.
* `inside_and_outside_never_mix`: all of it, for every civil node.
* `separated_after_requests`: requests both ways and a fault.
-/

set_option autoImplicit false

namespace CommandMesh

/-- Where a message began. -/
inductive Origin where
  /-- The bus brought it. -/
  | bus
  /-- With a request that the node has sent over its link. -/
  | external
  /-- With a request that the node has sent inside itself. -/
  | internal
  /-- With nothing of these: the node posted it by itself. -/
  | own
deriving DecidableEq

/-- Where the message of a request begins. -/
def Passage.origin : Passage → Origin
  | .external => .external
  | .internal => .internal

/-- A message that the node takes up came from the bus, which brings no messages that are to stay
inside, or stayed inside it. -/
def Origin.Carries (o : Origin) (e : Envelope) : Prop :=
  o = .bus ∧ e.loopback = false ∨ o = .internal ∧ e.loopback = true

/-- What was done that leads to messages. -/
inductive Occasion where
  /-- A request went out with this message. -/
  | sent (l : Letter) (e : Envelope)
  /-- The handler of a message has ended, and these are the answers. -/
  | answered (o : Origin) (e : Envelope) (replies : List Envelope)

namespace Occasion

/-- What is to be handed to the link: the messages of external requests, and answers to messages
that did not begin inside. -/
def outward : Occasion → List (Origin × Envelope)
  | sent l e => if l.options.passage = .external then [(.external, e)] else []
  | answered o _ replies => if o = .internal then [] else replies.map (o, ·)

/-- What is to stay inside: the messages of internal requests, and answers to messages that began
inside. -/
def inward : Occasion → List (Origin × Envelope)
  | sent l e => if l.options.passage = .internal then [(.internal, e)] else []
  | answered o _ replies => if o = .internal then replies.map (o, ·) else []

/-- The message goes where its request says, and answers go where the message came from and ask for
no answer. -/
def Proper : Occasion → Prop
  | sent l e => e.loopback = (l.options.passage == .internal)
  | answered o e replies => o.Carries e ∧ ∀ reply ∈ replies, reply.IsReplyTo e

/-- Where the messages begin that the occasion leads to. -/
def origin : Occasion → Origin
  | sent l _ => l.options.passage.origin
  | answered o _ _ => o

/-- The messages that the occasion leads to. -/
def messages : Occasion → List Envelope
  | sent _ e => [e]
  | answered _ _ replies => replies

variable {d : Occasion}

/-- Of a proper occasion the messages stay inside exactly if they begin there. -/
theorem Proper.loopback (h : d.Proper) :
    ∀ e ∈ d.messages, e.loopback = (d.origin == .internal) := by
  cases d with
  | sent l e =>
    intro e' he'
    rw [List.mem_singleton.mp he', show e.loopback = _ from h]
    simp only [origin]
    cases l.options.passage <;> rfl
  | answered o e replies =>
    obtain ⟨hcarries, hreplies⟩ := h
    intro reply hreply
    rw [(hreplies reply hreply).loopback]
    rcases hcarries with ⟨rfl, he⟩ | ⟨rfl, he⟩ <;> rw [he] <;> rfl

/-- So the messages of a proper occasion that are to be handed to the link are those without the
mark. -/
theorem Proper.outward_eq (h : d.Proper) :
    d.outward = (d.messages.filter (!·.loopback)).map (d.origin, ·) := by
  rw [List.filter_congr fun e he => congrArg (!·) (h.loopback e he)]
  cases d with
  | sent l e =>
    simp only [outward, messages, origin]
    cases l.options.passage <;> rfl
  | answered o e replies =>
    simp only [outward, messages, origin]
    by_cases ho : o = .internal
    · simp [ho]
    · simp [ho, beq_false_of_ne ho]

/-- The messages of a proper occasion that are to stay inside are those with the mark. -/
theorem Proper.inward_eq (h : d.Proper) :
    d.inward = (d.messages.filter (·.loopback)).map (d.origin, ·) := by
  rw [List.filter_congr h.loopback]
  cases d with
  | sent l e =>
    simp only [inward, messages, origin]
    cases l.options.passage <;> rfl
  | answered o e replies =>
    simp only [inward, messages, origin]
    by_cases ho : o = .internal
    · simp [ho]
    · simp [ho, beq_false_of_ne ho]

/-- Nothing that begins inside is to be handed to the link. -/
theorem Proper.of_mem_outward (h : d.Proper) {x : Origin × Envelope} (hx : x ∈ d.outward) :
    x.2.loopback = false ∧ (x.1 = .bus ∨ x.1 = .external) := by
  cases d with
  | sent l e =>
    obtain ⟨hpassage, hx⟩ := List.mem_ite_nil_right.mp hx
    rw [List.mem_singleton.mp hx]
    exact ⟨(show e.loopback = _ from h).trans (by rw [hpassage]; rfl), Or.inr rfl⟩
  | answered o e replies =>
    obtain ⟨hcarries, hreplies⟩ := h
    obtain ⟨ho, hx⟩ := List.mem_ite_nil_left.mp hx
    obtain ⟨reply, hreply, rfl⟩ := List.mem_map.mp hx
    obtain ⟨hbus, he⟩ := hcarries.resolve_right fun hinternal => ho hinternal.1
    exact ⟨(hreplies reply hreply).loopback.trans he, Or.inl hbus⟩

/-- Nothing that begins outside is to stay inside. -/
theorem Proper.of_mem_inward (h : d.Proper) {x : Origin × Envelope} (hx : x ∈ d.inward) :
    x.2.loopback = true ∧ x.1 = .internal := by
  cases d with
  | sent l e =>
    obtain ⟨hpassage, hx⟩ := List.mem_ite_nil_right.mp hx
    rw [List.mem_singleton.mp hx]
    exact ⟨(show e.loopback = _ from h).trans (by rw [hpassage]; rfl), rfl⟩
  | answered o e replies =>
    obtain ⟨hcarries, hreplies⟩ := h
    obtain ⟨ho, hx⟩ := List.mem_ite_nil_right.mp hx
    obtain ⟨reply, hreply, rfl⟩ := List.mem_map.mp hx
    refine ⟨(hreplies reply hreply).loopback.trans ?_, ho⟩
    rcases hcarries with ⟨hbus, -⟩ | ⟨-, he⟩
    · rw [ho] at hbus
      cases hbus
    · exact he

end Occasion

/-- A node, the messages that it has taken up, and what it has posted. -/
structure Circuit where
  node : Node
  /-- The messages that are being handled, with how far the node has got with each. -/
  held : List (Origin × Envelope × Stage) := []
  /-- Where the messages began that wait inside the node, in their order. -/
  inside : List Origin := []
  /-- What was taken from the node's link. -/
  gone : List Envelope := []
  /-- What the node has handed to its link. -/
  handed : List (Origin × Envelope) := []
  /-- What the node has posted inside itself. -/
  looped : List (Origin × Envelope) := []
  /-- What was done that leads to messages, in its order. -/
  occasions : List Occasion := []

namespace Node

/-- The same node over a link that takes everything. -/
def connected (n : Node) : Node := { n with setup := { n.setup with link := .bus } }

/-- What is done at a stage of the handling of a message that leads to messages: the handler has
ended, and its answers go back. -/
def occasionOf? (n : Node) (o : Origin) (e : Envelope) : Stage → Option Occasion
  | .ended _ result => some (.answered o e (n.repliesOf e result))
  | .arrived | .routed _ _ | .running _ _ => none

end Node

namespace Circuit

/-- What may happen next. -/
inductive Move where
  | send (l : Letter) (now : Instant)
  /-- The bus brings a message. -/
  | arrive (e : Envelope)
  /-- The node takes up the messages that stay inside it. -/
  | pump
  /-- The node goes on with the message at this place. -/
  | attend (k : Nat) (now : Instant)
  /-- What the link was given is on its way. -/
  | flush
  | meanwhile (a : Activity)

/-- The node does something for a message that began there. What it posts is noted. -/
def put (c : Circuit) (o : Origin) (f : Node → Node) : Circuit :=
  -- What is handed out is what a link that takes everything would be given.
  let looped := (f c.node).loopback.drop c.node.loopback.length
  let handed := (f c.node.connected).outbox.drop c.node.outbox.length
  { c with
    node := f c.node
    inside := c.inside ++ looped.map fun _ => o
    handed := c.handed ++ handed.map (o, ·)
    looped := c.looped ++ looped.map (o, ·) }

/-- What a move does. -/
def step (c : Circuit) : Move → Circuit
  | .send l now =>
    { c.put l.options.passage.origin fun n => (n.beginSend (α := Json) l now).1 with
      occasions := c.occasions ++ ((c.node.goesOut? l).map (.sent l)).toList }
  | .arrive e => { c with held := c.held ++ [(.bus, e, .arrived)] }
  | .pump =>
    { c with
      node := { c.node with loopback := [] }
      inside := []
      held := c.held ++ (c.inside.zip c.node.loopback).map fun x => (x.1, x.2, .arrived) }
  | .attend k now =>
    match c.held[k]? with
    | none => c
    | some (o, e, stage) =>
      { c.put o fun n => (n.attend e now stage).1 with
        held := match (c.node.attend e now stage).2 with
          | some stage => c.held.set k (o, e, stage)
          | none => c.held.eraseIdx k
        occasions := c.occasions ++ (c.node.occasionOf? o e stage).toList }
  | .flush => { c with node := { c.node with outbox := [] }, gone := c.gone ++ c.node.outbox }
  | .meanwhile a => c.put .own fun n => (n.perform a).1

/-- Moves in turn. -/
def run (c : Circuit) (ms : List Move) : Circuit := ms.foldl step c

/-- Moves with one more at the end are that one after the others. -/
theorem run_append_singleton (c : Circuit) (ms : List Move) (m : Move) :
    c.run (ms ++ [m]) = (c.run ms).step m := by
  simp [run]

/-- The bus brings no message that is to stay inside a node, and the node does nothing by itself
that is about more than its own requests. -/
def Move.IsPlain : Move → Prop
  | .arrive e => e.loopback = false
  | .meanwhile a => a.IsPlain
  | .send _ _ | .pump | .attend _ _ | .flush => True

end Circuit

/-! ### The same node over a link that takes everything -/

namespace Node

variable {n : Node}

/-- A civil node is civil over any link. -/
theorem Civil.connected (hn : n.Civil) : n.connected.Civil := ⟨hn.off, hn.disabled, hn.router⟩

/-- What a handler leads to does not depend on the link. -/
theorem repliesAt_connected (n : Node) (e : Envelope) (stage : Stage) :
    n.connected.repliesAt e stage = n.repliesAt e stage := by
  cases stage <;> rfl

/-- A link that takes everything was given all that is not to stay inside. -/
theorem Posting.connected {n' : Node} {es : List Envelope} (h : n.connected.Posting es n') :
    n'.outbox = n.outbox ++ es.filter (!·.loopback) := by
  rw [h.outbox]
  simp [Node.connected]

end Node

namespace Circuit

variable {c : Circuit}

/-- What is noted of a step is what the step posts, each message with where it began. -/
theorem put_eq {o : Origin} {f : Node → Node} {es : List Envelope}
    (h : c.node.Posting es (f c.node)) (h' : c.node.connected.Posting es (f c.node.connected)) :
    c.put o f = { c with
      node := f c.node
      inside := c.inside ++ (es.filter (·.loopback)).map fun _ => o
      handed := c.handed ++ (es.filter (!·.loopback)).map (o, ·)
      looped := c.looped ++ (es.filter (·.loopback)).map (o, ·) } := by
  simp only [put, h.loopback, h'.connected, List.drop_left]

/-! ### What is kept -/

/-- The two kinds of traffic are apart. -/
structure Apart (c : Circuit) : Prop where
  civil : c.node.Civil
  /-- Whatever waits inside the node began inside and is to stay there. -/
  inside : c.inside = c.node.loopback.map fun _ => .internal
  loopback : ∀ e ∈ c.node.loopback, e.loopback = true
  held : ∀ x ∈ c.held, x.1.Carries x.2.1 ∧ x.2.2.Fits x.2.1
  occasions : ∀ d ∈ c.occasions, d.Proper
  handed : c.handed = c.occasions.flatMap Occasion.outward
  looped : c.looped = c.occasions.flatMap Occasion.inward
  /-- A link that is up was given what the node has handed to it, and no other one anything. -/
  gone : c.gone ++ c.node.outbox =
    if c.node.setup.link = .bus then c.handed.map (·.2) else []

/-- A step keeps the traffic apart if it posts what its occasion leads to, or nothing without
one. -/
theorem Apart.put (h : c.Apart) {o : Origin} {f : Node → Node} {d? : Option Occasion}
    (hproper : ∀ d ∈ d?, d.Proper ∧ d.origin = o)
    (hposting : c.node.Posting (d?.toList.flatMap Occasion.messages) (f c.node))
    (hconnected : c.node.connected.Posting (d?.toList.flatMap Occasion.messages)
      (f c.node.connected))
    (hcivil : (f c.node).Civil) {held : List (Origin × Envelope × Stage)}
    (hheld : ∀ x ∈ held, x.1.Carries x.2.1 ∧ x.2.2.Fits x.2.1) :
    Apart { c.put o f with held, occasions := c.occasions ++ d?.toList } := by
  have hput := put_eq (o := o) hposting hconnected
  have hgone := h.gone
  -- Without an occasion nothing is posted, and so nothing is to be noted.
  cases d? with
  | none =>
    rw [hput]
    simp only [Option.toList, List.flatMap_nil, List.filter_nil, List.map_nil, List.append_nil]
      at hposting ⊢
    have hout : (f c.node).outbox = c.node.outbox := by rw [hposting.outbox]; simp
    have hinside : (f c.node).loopback = c.node.loopback := by rw [hposting.loopback]; simp
    exact ⟨hcivil, by rw [h.inside, hinside], by rw [hinside]; exact h.loopback, hheld, h.occasions,
      h.handed, h.looped, by rw [hout, hposting.setup, hgone]⟩
  | some d =>
    obtain ⟨hd, rfl⟩ := hproper d rfl
    rw [hput]
    simp only [Option.toList, List.flatMap_cons, List.flatMap_nil, List.append_nil] at hposting ⊢
    have hinside : ∀ e ∈ d.messages.filter (·.loopback),
        e.loopback = true ∧ d.origin = .internal := by
      intro e he
      obtain ⟨hmem, hloopback⟩ := List.mem_filter.mp he
      exact ⟨hloopback, by simpa [hloopback] using (hd.loopback e hmem).symm⟩
    refine ⟨hcivil, ?_, ?_, hheld, ?_, ?_, ?_, ?_⟩
    · rw [hposting.loopback, List.map_append, ← h.inside,
        List.map_congr_left fun e he => (hinside e he).2]
    · rw [hposting.loopback]
      exact List.forall_mem_append.mpr ⟨h.loopback, fun e he => (hinside e he).1⟩
    · exact List.forall_mem_append.mpr ⟨h.occasions, by simpa using hd⟩
    · -- The ledgers grow by what the occasion leads to, and so does what the link was given.
      rw [h.handed, List.flatMap_append, List.flatMap_singleton, hd.outward_eq]
    · rw [h.looped, List.flatMap_append, List.flatMap_singleton, hd.inward_eq]
    · show c.gone ++ (f c.node).outbox = _
      rw [hposting.outbox, hposting.setup, ← List.append_assoc, hgone]
      by_cases hlink : c.node.setup.link = .bus <;> simp [hlink, Function.comp_def]

/-- The message of a request goes where the request says. -/
theorem loopback_of_goesOut? {n : Node} {l : Letter} {e : Envelope} (h : n.goesOut? l = some e) :
    e.loopback = (l.options.passage == .internal) := by
  unfold Node.goesOut? at h
  split at h
  · dsimp only at h
    split at h
    · cases h
    · rw [← Option.some.inj h]
      rfl
  · cases h

/-- A request keeps the traffic apart, whether it goes out or not. -/
theorem Apart.send (h : c.Apart) (l : Letter) (now : Instant) :
    (c.step (.send l now)).Apart := by
  -- The same request on the same node, over its own link and over one that takes everything.
  have hposting := c.node.posting_beginSend (α := Json) l now
  have hconnected := c.node.connected.posting_beginSend (α := Json) l now
  -- A request that does not go out is no occasion.
  have hmessages : ((c.node.goesOut? l).map (Occasion.sent l)).toList.flatMap Occasion.messages =
      (c.node.goesOut? l).toList := by
    cases c.node.goesOut? l <;> rfl
  have hproper : ∀ d ∈ (c.node.goesOut? l).map (Occasion.sent l),
      d.Proper ∧ d.origin = l.options.passage.origin := by
    intro d hd
    obtain ⟨e, he, rfl⟩ := Option.map_eq_some_iff.mp hd
    exact ⟨loopback_of_goesOut? he, rfl⟩
  exact h.put (f := fun n => (n.beginSend (α := Json) l now).1) hproper (hmessages ▸ hposting)
    (hmessages ▸ hconnected) (h.civil.beginSend l now) h.held

/-- What the end of a handler leads to are answers to its message. -/
theorem isReplyTo_of_repliesOf {n : Node} {e : Envelope} {route : Route Handler}
    {result : Except Fault (List Envelope)} (h : (Stage.ended route result).Fits e) :
    ∀ reply ∈ n.repliesOf e result, reply.IsReplyTo e := by
  cases result with
  | ok replies => exact h replies rfl
  | error f =>
    intro reply hreply
    exact Envelope.isReplyTo_of_replyWithKey (Option.mem_toList.mp hreply)

/-- Going on with a message keeps the traffic apart. -/
theorem Apart.attend (h : c.Apart) (k : Nat) (now : Instant) :
    (c.step (.attend k now)).Apart := by
  unfold step
  dsimp only
  cases hk : c.held[k]? with
  | none => exact h
  | some x =>
    obtain ⟨o, e, stage⟩ := x
    obtain ⟨hcarries, hfits⟩ := h.held _ (List.mem_of_getElem? hk)
    have hposting := c.node.posting_attend now hfits
    have hconnected := c.node.connected.posting_attend now hfits
    rw [Node.repliesAt_connected] at hconnected
    -- Only the last stage is an occasion.
    have hmessages : (c.node.occasionOf? o e stage).toList.flatMap Occasion.messages =
        c.node.repliesAt e stage := by
      cases stage <;> simp [Node.occasionOf?, Node.repliesAt, Occasion.messages]
    refine h.put (fun d hd => ?_) (hmessages ▸ hposting) (hmessages ▸ hconnected)
      (h.civil.attend now hfits) ?_
    · cases stage with
      | ended route result =>
        obtain rfl := Option.some.inj hd
        exact ⟨⟨hcarries, isReplyTo_of_repliesOf hfits⟩, rfl⟩
      | arrived | routed | running => cases hd
    · -- The message is done with, or it has got one stage further.
      cases hnext : (c.node.attend e now stage).2 with
      | none => exact fun x hx => h.held x (List.mem_of_mem_eraseIdx hx)
      | some next =>
        intro x hx
        rcases List.mem_or_eq_of_mem_set hx with hx | rfl
        · exact h.held x hx
        · exact ⟨hcarries, h.civil.fits_attend now hfits hnext⟩

/-- Every move keeps the traffic apart. -/
theorem Apart.step (h : c.Apart) {m : Move} (hm : m.IsPlain) : (c.step m).Apart := by
  cases m with
  | send l now => exact h.send l now
  | attend k now => exact h.attend k now
  | arrive e =>
    refine ⟨h.civil, h.inside, h.loopback, ?_, h.occasions, h.handed, h.looped, h.gone⟩
    exact List.forall_mem_append.mpr ⟨h.held, by simpa using ⟨Or.inl ⟨rfl, hm⟩, trivial⟩⟩
  | pump =>
    refine ⟨h.civil.of_router rfl rfl h.civil.router, rfl, by simp [Circuit.step], ?_, h.occasions,
      h.handed, h.looped, h.gone⟩
    -- The messages that wait inside all began there.
    refine List.forall_mem_append.mpr ⟨h.held, fun x hx => ?_⟩
    obtain ⟨⟨o, e⟩, hoe, rfl⟩ := List.mem_map.mp hx
    obtain ⟨ho, he⟩ := List.of_mem_zip hoe
    rw [h.inside] at ho
    obtain ⟨_, -, rfl⟩ := List.mem_map.mp ho
    exact ⟨Or.inr ⟨rfl, h.loopback e he⟩, trivial⟩
  | flush =>
    refine ⟨h.civil.of_router rfl rfl h.civil.router, h.inside, h.loopback, h.held, h.occasions,
      h.handed, h.looped, ?_⟩
    show (c.gone ++ c.node.outbox) ++ [] = _
    rw [List.append_nil]
    exact h.gone
  | meanwhile a =>
    have hcalm := h.civil.perform hm
    have hconnected := h.civil.connected.perform hm
    have hnothing : ∀ d ∈ (none : Option Occasion), d.Proper ∧ d.origin = .own := by simp
    have hput := h.put (f := fun n => (n.perform a).1) hnothing hcalm.posting hconnected.posting
      hcalm.civil h.held
    rw [Option.toList, List.append_nil] at hput
    exact hput

/-- Throughout a run of a civil node the traffic is apart. -/
theorem apart_run {n : Node} (hn : n.Civil) (houtbox : n.outbox = []) (hloopback : n.loopback = [])
    {ms : List Move} (hms : ∀ m ∈ ms, m.IsPlain) : (run { node := n } ms).Apart := by
  induction ms using List.reverseRecOn with
  | nil =>
    refine ⟨hn, ?_, ?_, by simp [run], by simp [run], rfl, rfl, ?_⟩
    · rw [run, List.foldl_nil, hloopback]
      rfl
    · rw [run, List.foldl_nil, hloopback]
      exact fun _ he => absurd he List.not_mem_nil
    · rw [run, List.foldl_nil, houtbox]
      split <;> rfl
  | append_singleton ms m ih =>
    rw [run_append_singleton]
    exact (ih fun m' hm' => hms m' (List.mem_append_left _ hm')).step
      (hms m (List.mem_append_right _ (List.mem_singleton_self m)))

/-- A message that asks for no answer leads to nothing, however its handler ends. -/
theorem Apart.quiet_attend (h : c.Apart) {k : Nat} {o : Origin} {e : Envelope} {stage : Stage}
    (hk : c.held[k]? = some (o, e, stage)) (he : e.returnAddress = none) (now : Instant) :
    (c.step (.attend k now)).handed = c.handed ∧ (c.step (.attend k now)).looped = c.looped ∧
      (c.step (.attend k now)).node.outbox = c.node.outbox ∧
        (c.step (.attend k now)).node.loopback = c.node.loopback := by
  obtain ⟨-, hfits⟩ := h.held _ (List.mem_of_getElem? hk)
  have hnone : c.node.repliesAt e stage = [] := by
    cases stage with
    | arrived | routed | running => rfl
    | ended route result =>
      -- Whoever is answered has asked for it.
      refine List.eq_nil_iff_forall_not_mem.mpr fun reply hreply => ?_
      have haddress := (isReplyTo_of_repliesOf hfits reply hreply).address
      rw [he] at haddress
      cases haddress
  have hposting := c.node.posting_attend now hfits
  have hconnected := c.node.connected.posting_attend now hfits
  rw [Node.repliesAt_connected] at hconnected
  rw [hnone] at hposting hconnected
  simp only [Circuit.step, hk, put_eq (f := fun n => (n.attend e now stage).1) hposting hconnected]
  exact ⟨by simp, by simp, by simp [hposting.outbox], by simp [hposting.loopback]⟩

/-- What is inside a node stays there. Let a node be built of handlers that only reply, or fail, and
take no part in elections. It starts and stops, its requests go out on either way and are answered,
withdrawn or forgotten, the bus brings it messages, and it handles these and those inside it side by
side, in any order. Then

* whatever it hands to its link is meant for others, and whatever it posts inside is to stay there;
* what it hands to its link are the messages of its external requests and the answers, those that
  tell of faults included, to what the bus brought it, each once and in their order. What it posts
  inside are those of its internal requests and the answers to what began inside;
* so nothing that began inside, at however many removes, is handed to the link;
* an answer goes the way its message came and asks for no answer, and a message that asks for none
  leads to nothing, whether its handler succeeds or fails;
* a link that is up has been given just what was handed to it, and one that is down nothing. -/
theorem inside_and_outside_never_mix {b : Blueprint} {supply : Supply} {built : Instant} {n : Node}
    (hbuilt : b.build supply built = .ok n) (hoff : b.policy.election.enabled = false)
    (hreplies : ∀ d ∈ b.handlers, d.handler.Replies) {ms : List Move}
    (hms : ∀ m ∈ ms, m.IsPlain) :
    let c := run { node := n } ms
    ((∀ x ∈ c.handed, x.2.loopback = false) ∧ ∀ x ∈ c.looped, x.2.loopback = true) ∧
      (c.handed = c.occasions.flatMap Occasion.outward ∧
        c.looped = c.occasions.flatMap Occasion.inward) ∧
      ((∀ x ∈ c.handed, x.1 = .bus ∨ x.1 = .external) ∧ ∀ x ∈ c.looped, x.1 = .internal) ∧
      (∀ o e replies, .answered o e replies ∈ c.occasions →
        o.Carries e ∧ ∀ reply ∈ replies, reply.IsReplyTo e) ∧
      (∀ k o e stage now, c.held[k]? = some (o, e, stage) → e.returnAddress = none →
        (c.step (.attend k now)).handed = c.handed ∧ (c.step (.attend k now)).looped = c.looped ∧
          (c.step (.attend k now)).node.outbox = c.node.outbox ∧
            (c.step (.attend k now)).node.loopback = c.node.loopback) ∧
      c.gone ++ c.node.outbox = if c.node.setup.link = .bus then c.handed.map (·.2) else [] := by
  intro c
  obtain ⟨hcivil, houtbox, hloopback⟩ := Blueprint.civil_of_build hbuilt hoff hreplies
  have h : c.Apart := apart_run hcivil houtbox hloopback hms
  -- What was handed out is what some occasion has led to, and that is proper.
  have hhanded : ∀ x ∈ c.handed, x.2.loopback = false ∧ (x.1 = .bus ∨ x.1 = .external) := by
    intro x hx
    rw [h.handed] at hx
    obtain ⟨d, hd, hx⟩ := List.mem_flatMap.mp hx
    exact (h.occasions d hd).of_mem_outward hx
  have hlooped : ∀ x ∈ c.looped, x.2.loopback = true ∧ x.1 = .internal := by
    intro x hx
    rw [h.looped] at hx
    obtain ⟨d, hd, hx⟩ := List.mem_flatMap.mp hx
    exact (h.occasions d hd).of_mem_inward hx
  exact ⟨⟨fun x hx => (hhanded x hx).1, fun x hx => (hlooped x hx).1⟩, ⟨h.handed, h.looped⟩,
    ⟨fun x hx => (hhanded x hx).2, fun x hx => (hlooped x hx).2⟩,
    fun o e replies hmem => h.occasions _ hmem,
    fun k o e stage now hk he => h.quiet_attend hk he now, h.gone⟩

/-- A command whose handlers answer jobs and fail on everything else. -/
def separationSample : Blueprint where
  name := "billing"
  service := some "a"
  link := some .bus
  handlers := [
    ⟨.of (some "jobs") none none, .host ⟨0, none, false, fun _ => false,
      fun _ r => ⟨0, do return .ok (← r.replyStatus 200 "done").toList⟩⟩⟩,
    ⟨.of (some "other") none none, .host ⟨1, none, false, fun _ => false,
      fun _ _ => ⟨0, pure (.error (.raised ["no"]))⟩⟩⟩]

/-- A message that the bus brings from somebody who wants an answer. -/
def separationMessage : Envelope :=
  { Envelope.blank "other" "job" "run" "b" "k" with returnAddress := some ⟨"response", "b", "r"⟩ }

/-- It sends a request to itself and one to others, and fails on a message from the bus. -/
def separationMoves : List Move :=
  [.meanwhile .start, .send ⟨"jobs", "job", "run", .ok [], { passage := .internal }⟩ 1, .pump,
    .attend 0 2, .attend 0 2, .attend 0 2, .attend 0 2,
    .send ⟨"jobs", "job", "run", .ok [], {}⟩ 3, .arrive separationMessage,
    .attend 0 4, .attend 0 4, .attend 0 4, .attend 0 4, .pump,
    .attend 0 5, .attend 0 5, .attend 0 5, .attend 0 5]

/-- The answer to its own request stays inside, and the request to others and what tells of the
fault go out. -/
theorem separated_after_requests :
    ∃ n, separationSample.build { scope := 0 } 0 = .ok n ∧
      let c := run { node := n } separationMoves
      c.handed.map (·.1) = [.external, .bus] ∧ c.looped.map (·.1) = [.internal, .internal] ∧
        (∀ x ∈ c.handed, x.2.loopback = false) ∧ c.gone ++ c.node.outbox = c.handed.map (·.2) := by
  have hran : (separationSample.build { scope := 0 } 0).toOption.any (fun n =>
      let c := run { node := n } separationMoves
      decide (c.handed.map (·.1) = [.external, .bus] ∧
        c.looped.map (·.1) = [.internal, .internal] ∧ c.node.setup.link = .bus)) = true := by
    decide +kernel
  simp only [Option.any_eq_true, decide_eq_true_eq] at hran
  obtain ⟨n, hbuilt, hhanded, hlooped, hlink⟩ := hran
  have hbuilt := ok_of_toOption hbuilt
  have hreplies : ∀ d ∈ separationSample.handlers, d.handler.Replies := by
    refine List.forall_mem_cons.mpr ⟨?_, List.forall_mem_singleton.mpr ?_⟩
    · intro count r supply replies hresult reply hreply
      obtain rfl := Except.ok.inj hresult
      exact .status (Option.mem_toList.mp hreply)
    · intro count r supply replies hresult
      cases hresult
  have hplain : ∀ m ∈ separationMoves, m.IsPlain := by
    simp [separationMoves, Move.IsPlain, Activity.IsPlain, separationMessage, Envelope.blank]
  obtain ⟨⟨houtside, -⟩, -, -, -, -, hgone⟩ :=
    inside_and_outside_never_mix hbuilt rfl hreplies hplain
  rw [if_pos hlink] at hgone
  exact ⟨n, hbuilt, hhanded, hlooped, houtside, hgone⟩

end Circuit

end CommandMesh
