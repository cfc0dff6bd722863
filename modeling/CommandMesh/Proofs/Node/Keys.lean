import CommandMesh.Proofs.Node.Departure

/-!
# `CommandMesh.Proofs.Node.Keys`: texts that are brought into normal form more than once

A request is registered under the normal form of its id, and the waitlist brings that into normal
form once more. Whoever settles it later may have the id as it was written, its normal form, or the
key of the list. `Waitlist.FoundUnder` says that all that may be done with a key finds the request.

Texts are any strings, with whatever characters. Nothing is asked of an id, which may well have an
empty normal form; two ids with the same normal form are one to the list, and the second request is
refused while the first one waits. A waitlist is one that began empty and was operated on in any
order, so that its ids are kept apart and in normal form (`Tidy`).

Patterns for routes are in the same position: their texts are brought into normal form as they are
made, and a pattern that is made anew of its own texts should be the same pattern, since removing a
route compares patterns.

All of it rests on the two laws that a normal form is its own normal form, which are about texts
alone and are proved where normal forms are. The theorems:

* `RoutePattern.of_fields`: a pattern that is made anew of its own texts is the same pattern.
* `Waitlist.Tidy.foundUnder`: a request is found under every text whose normal form is its id.
* `Node.registered_of_waits`: a request that is sent is registered under the normal form of its id.
* `Waitlist.normal_forms_are_final`: normal forms are their own normal forms, so nothing is missed.
-/

set_option autoImplicit false

namespace CommandMesh

/-- A pattern that is made anew of its own texts is the same pattern. -/
theorem RoutePattern.of_fields (channel kind action : Option String) :
    let p := RoutePattern.of channel kind action
    RoutePattern.of p.channel p.kind p.action = p := by
  simp only [RoutePattern.of, Option.map_map, Function.comp_def, Text.routingForm_routingForm]

namespace Waitlist

/-- A request is not on the list any more, one that was settled is reported, and the caller of the
request has this outcome. -/
structure Ended (r : Waiting) (o : Outcome) (after : Waitlist × WaitlistReply) : Prop where
  gone : ∀ r' ∈ after.1.pending, r'.id ≠ r.id
  reported : 0 < after.2.released
  delivered : ∀ ticket, r.ticket = some ticket → (ticket, o) ∈ after.1.outcomes

/-- Whatever may be done with a key finds the request, and so does what is done with all of them. -/
structure FoundUnder (w : Waitlist) (r : Waiting) (key : String) : Prop where
  contains : w.contains key = true
  complete : ∀ now answer, Ended r (.answered answer) (w.perform now (.complete key answer))
  cancel : ∀ now, Ended r .cancelled (w.perform now (.cancel key))
  sweep : ∀ now, r.since + r.ttl < now → Ended r .timedOut (w.perform now .sweep)
  shutdown : ∀ now, Ended r .cancelled (w.perform now .shutdown)

variable {w : Waitlist} {r : Waiting}

/-- An operation that ends a request takes it off the list and delivers the outcome. -/
theorem Tidy.ended (hw : w.Tidy) (hr : r ∈ w.pending) {now : Instant} {op : WaitlistOp}
    {o : Outcome} (hends : op.Ends now r o) : Ended r o (w.perform now op) := by
  have hout : op.outcomeFor now r = some o := WaitlistOp.outcomeFor_eq_some_iff.mpr hends
  -- A registration ends no request.
  have hop : ∀ id request ttl awaited, op ≠ .register id request ttl awaited := by
    rintro id request ttl awaited rfl
    cases hends
  have hsettles := settles_perform hw now op hop
  constructor
  case gone =>
    -- Ids are kept apart, so a request with this id would be the one that has been settled.
    intro r' hr' hid
    rw [hsettles.pending] at hr'
    obtain ⟨hr', hkept⟩ := List.mem_filter.mp hr'
    rw [List.inj_on_of_nodup_map hw.keyed hr' hr hid, hout] at hkept
    cases hkept
  case reported =>
    rw [hsettles.count]
    exact List.countP_pos_iff.mpr ⟨r, hr, by rw [hout]; rfl⟩
  case delivered =>
    intro ticket hticket
    refine hsettles.outcomes.mem_iff.mpr (List.mem_append_right _ ?_)
    exact List.mem_filterMap.mpr ⟨r, hr, by rw [hout, Waiting.mail, hticket]; rfl⟩

/-- A request is found under every text whose normal form is its id. -/
theorem Tidy.foundUnder (hw : w.Tidy) (hr : r ∈ w.pending) {key : String}
    (hkey : Text.correlationForm key = r.id) : FoundUnder w r key where
  contains := by
    rw [Waitlist.contains, hkey, find?, List.find?_isSome]
    exact ⟨r, hr, beq_self_eq_true r.id⟩
  complete _ _ := hw.ended hr (.answer hkey)
  cancel _ := hw.ended hr (.withdrawal hkey)
  sweep _ hlate := hw.ended hr (.expiry hlate)
  shutdown _ := hw.ended hr .closure

/-- A registration is accepted unless the id waits already. -/
theorem isAccepted_register (w : Waitlist) (now : Instant) (id : String) (request : Envelope)
    (ttl : Span) (awaited : Bool) :
    (w.perform now (.register id request ttl awaited)).2.isAccepted = !w.contains id := by
  cases hfind : w.find? (Text.correlationForm id) with
  | some r =>
    rw [perform_register_of_some hfind, Waitlist.contains, hfind]
    rfl
  | none =>
    rw [perform_register_of_none hfind, Waitlist.contains, hfind]
    rfl

/-- Whether a request waits under an id does not depend on how the id is written. -/
theorem contains_correlationForm (w : Waitlist) (id : String) :
    w.contains (Text.correlationForm id) = w.contains id := by
  rw [Waitlist.contains, Text.correlationForm_correlationForm, Waitlist.contains]

end Waitlist

namespace Node

variable {α : Type} {n n' : Node} {now : Instant} {p : Pending}

/-- Putting a message on its way leaves the list of requests. -/
theorem waitlist_emit {e : Envelope} (h : n.emit e = .ok n') : n'.waitlist = n.waitlist := by
  rcases n.emit_cases e with ⟨n'', hemit, -, hlist⟩ | ⟨reason, hemit, -⟩
  · obtain rfl := Except.ok.inj (h.symm.trans hemit)
    exact hlist
  · cases h.symm.trans hemit

/-- A message that is waited for was registered under the normal form of its key. -/
theorem registered_of_dispatch {options : SendOptions} {e : Envelope}
    (h : n.dispatch (α := α) options e now = (n', .waits p)) :
    p.id = Text.correlationForm e.key ∧
      n.waitlist.perform now (.register p.id e p.ttl true) =
        (n'.waitlist, .registered (some p.ticket)) := by
  cases hfind : n.waitlist.find? (Text.correlationForm e.key) with
  | some r =>
    -- The id waits already, so the request is refused and nobody waits.
    rw [dispatch_of_some hfind] at h
    cases (Prod.mk.inj h).2
  | none =>
    cases hemit : (n.listed options e now).emit e with
    | error reason =>
      -- The link does not take the message, so the request has ended.
      rw [dispatch_of_stuck hfind hemit] at h
      cases (Prod.mk.inj h).2
    | ok sent =>
      rw [dispatch_of_emitted hfind hemit] at h
      obtain ⟨rfl, hstart⟩ := Prod.mk.inj h
      split at hstart
      · exact absurd hstart (by simp)
      · -- The entry was made with the normal form of the key, and the list takes that for its own.
        next hawaited =>
        obtain rfl := SendStart.waits.inj hstart
        have hlist := waitlist_emit hemit
        have hnone : n.waitlist.find? (Text.correlationForm (n.entry options e now).id) = none := by
          rw [show (n.entry options e now).id = Text.correlationForm e.key from rfl,
            Text.correlationForm_correlationForm, hfind]
        refine ⟨rfl, ?_⟩
        rw [Waitlist.perform_register_of_none hnone, hlist]
        simp [listed, entry, Waitlist.added, hawaited, Text.correlationForm_correlationForm]

/-- A request that is waited for was registered under the normal form of its key. -/
theorem registered_of_waits {l : Letter} (h : n.beginSend (α := α) l now = (n', .waits p)) :
    ∃ request : Envelope, p.id = Text.correlationForm request.key ∧
      n.waitlist.perform now (.register p.id request p.ttl true) =
        (n'.waitlist, .registered (some p.ticket)) := by
  cases hrun : n.running with
  | false => simp [beginSend, hrun] at h
  | true =>
    cases hbody : l.body with
    | error f => simp [beginSend, hrun, hbody] at h
    | ok body =>
      have hsend : n.beginSend (α := α) l now = (n.draw (n.requestMessage l body)).1.dispatch
          l.options (n.letterMessage l body) now := by
        simp only [beginSend, hrun, hbody]
        rfl
      have hwaits := registered_of_dispatch (hsend.symm.trans h)
      exact ⟨_, hwaits.1, hwaits.2⟩

end Node

namespace Waitlist

/-- Normal forms are their own normal forms, so a pattern that is made anew of its texts is the same
pattern, and a request that is registered under an id in normal form, as one that is sent is, is
listed under that id. As long as it waits, it is found under the id as it was written, under the
normal form of the id, and under the key that it is listed by. -/
theorem normal_forms_are_final :
    (∀ s, Text.routingForm (Text.routingForm s) = Text.routingForm s) ∧
    (∀ s, Text.correlationForm (Text.correlationForm s) = Text.correlationForm s) ∧
    (∀ channel kind action, let p := RoutePattern.of channel kind action
      RoutePattern.of p.channel p.kind p.action = p) ∧
    (∀ (before : List (Instant × WaitlistOp)) (now : Instant) (id : String) (request : Envelope)
      (ttl : Span) (awaited : Bool),
      let w := (Waitlist.run {} before).1
      let listed := w.perform now (.register (Text.correlationForm id) request ttl awaited)
      listed.2.isAccepted = !w.contains id ∧
      (listed.2.isAccepted = true → ∃ r ∈ listed.1.pending,
        r.id = Text.correlationForm id ∧ r.request = request ∧ r.since = now ∧ r.ttl = ttl ∧
        listed.2 = .registered r.ticket ∧
        ∀ later, r ∈ (listed.1.run later).1.pending → ∀ key ∈ [id, Text.correlationForm id, r.id],
          FoundUnder (listed.1.run later).1 r key)) ∧
    ∀ (α : Type) (n n' : Node) (l : Letter) (now : Instant) (p : Pending),
      n.beginSend (α := α) l now = (n', .waits p) → ∃ request : Envelope,
        p.id = Text.correlationForm request.key ∧
          n.waitlist.perform now (.register p.id request p.ttl true) =
            (n'.waitlist, .registered (some p.ticket)) := by
  refine ⟨Text.routingForm_routingForm, Text.correlationForm_correlationForm,
    RoutePattern.of_fields, ?listed, fun _ _ _ _ _ _ h => Node.registered_of_waits h⟩
  intro before now id request ttl awaited w listed
  have htidy : Tidy {} := ⟨List.nodup_nil, by simp⟩
  have hw : w.Tidy := (run_mirrors htidy mirrors_nil before).1
  have haccepted : listed.2.isAccepted = !w.contains id := by
    rw [isAccepted_register, contains_correlationForm]
  refine ⟨haccepted, fun hlisted => ?_⟩
  -- The id is listed in its normal form, which is its own normal form.
  have hfind : w.find? (Text.correlationForm (Text.correlationForm id)) = none := by
    rw [Text.correlationForm_correlationForm]
    rw [haccepted, Bool.not_eq_true', Waitlist.contains, Option.isSome_eq_false_iff] at hlisted
    exact Option.isNone_iff_eq_none.mp hlisted
  have hperform : listed = _ := perform_register_of_none hfind
  have hid : (w.added now (Text.correlationForm id) request ttl awaited).id =
      Text.correlationForm id := Text.correlationForm_correlationForm id
  refine ⟨w.added now (Text.correlationForm id) request ttl awaited, by rw [hperform]; simp, hid,
    rfl, rfl, rfl, by rw [hperform], fun later hlater key hkey => ?_⟩
  -- Operations keep the ids on the list apart and in normal form.
  have hlast : (listed.1.run later).1.Tidy := by
    obtain ⟨l, hl⟩ : ∃ l, Mirrors w l := ⟨_, (run_mirrors htidy mirrors_nil before).2.1⟩
    exact (run_mirrors (hw.perform now _) (hl.perform hw now _).1 later).1
  refine hlast.foundUnder hlater ?_
  rw [hid]
  simp only [List.mem_cons, List.not_mem_nil, or_false] at hkey
  rcases hkey with rfl | rfl | rfl
  · rfl
  · exact Text.correlationForm_correlationForm id
  · rw [hid, Text.correlationForm_correlationForm]

end Waitlist

end CommandMesh
