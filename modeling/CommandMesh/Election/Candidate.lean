import CommandMesh.Election.Basic

/-!
# `CommandMesh.Election.Candidate`: one instance in an election

A `Candidate` climbs the ladder by hearing its own announcements: the echo of a rung's announcement
lifts it to the next rung once it has polled often enough on this one. A master, or a contender
further up, sends it to stand by; of two contenders on one rung the one with the higher id yields.

Nothing here sends or waits. `poll` and `process` take the time, change the candidate and return
what its node has to announce or carry out. A candidate sees of the others only what their
announcements say, with the id of their sender; ids are compared as texts, character by character.

Time is any instant, and nothing is supposed about how late a poll is. The jitter is asked for with
a number drawn at random, of which `jitter` takes what the policy allows. Polls on a rung are
counted in 32 bits, and so are compared with the attempts that the policy asks for.

What is known of the partners has three parts that change together only where the code says so: the
flag of each partner, who is known as the master, and until when to stand by without hearing of one.
-/

set_option autoImplicit false

namespace CommandMesh

/-- An instance in an election. -/
structure Candidate where
  name : String
  service : String
  policy : ElectionPolicy
  standing : Standing
  /-- Polls on the present rung. -/
  attempts : UInt32
  /-- The other instances that were heard, in the order of their ids, and whether each was last
  known as master. -/
  partners : List (String × Bool)
  knownMaster : Option String
  nextPoll : Instant
  /-- Until when the candidate stands by without hearing of a master. -/
  standbyDeadline : Option Instant
  /-- How often the standing has changed. -/
  changes : UInt64
deriving DecidableEq

namespace Candidate

/-- A candidate that has heard nothing yet. -/
def create (name service : String) (policy : ElectionPolicy) (now : Instant) : Candidate where
  name := name
  service := service
  policy := policy
  standing := if policy.enabled then .verifying else .disabled
  attempts := 0
  partners := []
  knownMaster := none
  nextPoll := now + policy.initialSpan
  standbyDeadline := none
  changes := 0

/-- Whether the candidate is master. -/
def isActive (c : Candidate) : Bool := c.standing == .active

/-! ### Partners -/

/-- Sets what is known of a partner, in the order of the ids. -/
def setPartner (service : String) (isMaster : Bool) : List (String × Bool) → List (String × Bool)
  | [] => [(service, isMaster)]
  | p :: rest =>
    if service = p.1 then (service, isMaster) :: rest
    else if service < p.1 then (service, isMaster) :: p :: rest
    else p :: setPartner service isMaster rest

/-- The partners with no master among them. -/
def demoteAll (partners : List (String × Bool)) : List (String × Bool) :=
  partners.map fun p => (p.1, false)

/-- Notes that a partner exists. What was known of it stays. -/
def meet (c : Candidate) (sender : String) : Candidate :=
  if (c.partners.lookup sender).isSome then c
  else { c with partners := setPartner sender false c.partners }

/-- Notes that a partner is the master. -/
def recordMaster (c : Candidate) (sender : String) : Candidate :=
  { c with
    partners := setPartner sender true (demoteAll c.partners)
    knownMaster := some sender }

/-! ### Changes of standing -/

/-- The time until which a candidate that starts now stands by. -/
def deadlineFrom (c : Candidate) (now : Instant) : Instant := now + c.policy.standbySpan

/-- Changes the standing. Polls are counted afresh, and only a candidate that stands by has a
deadline. -/
def transition (c : Candidate) (next : Standing) (now : Instant) : Candidate :=
  if c.standing = next then c
  else
    { c with
      standing := next
      attempts := 0
      changes := c.changes + 1
      standbyDeadline := if next = .inactive then some (c.deadlineFrom now) else none }

/-- Makes the candidate master. -/
def promote (c : Candidate) (now : Instant) : Candidate :=
  let c := c.transition .active now
  -- Whoever was master before is not known as one any more.
  { c with partners := demoteAll c.partners, knownMaster := none }

/-- Makes the candidate master, unless it is already. -/
def activate (c : Candidate) (now : Instant) : Option Candidate :=
  if c.standing = .active then none else some (c.promote now)

/-- Makes a master stand by. -/
def deactivate (c : Candidate) (now : Instant) : Option Candidate :=
  if c.standing = .active then some (c.transition .inactive now) else none

/-! ### Polls -/

/-- The jitter that a random number asks for: at most that of the policy. -/
def jitter (p : ElectionPolicy) (draw : Nat) : Span := .ofMillis (draw % (p.pollJitter.toNat + 1))

/-- Whether the candidate has stood by for its time. -/
def standbyIsOver (c : Candidate) (now : Instant) : Bool :=
  c.standing == .inactive && c.standbyDeadline.any (· ≤ now)

/-- Starts again if the candidate has stood by for its time. -/
def restart (c : Candidate) (now : Instant) : Candidate :=
  if c.standbyIsOver now then { c with knownMaster := none }.transition .starting now else c

/-- Counts a poll and sets the time of the next one. A candidate that does not know yet whether it
is heard counts no polls. -/
def polled (c : Candidate) (now : Instant) (draw : Nat) : Candidate :=
  { c with
    nextPoll := now + c.policy.pollSpan + jitter c.policy draw
    attempts := if c.standing = .verifying then c.attempts else c.attempts + 1 }

/-- Looks whether a poll is due. If so, gives what to announce. -/
def poll (c : Candidate) (now : Instant) (draw : Nat) : Candidate × Option Announcement :=
  if c.standing = .disabled ∨ now < c.nextPoll then (c, none)
  else
    let c := c.restart now
    -- A restart counts for this very poll.
    match Announcement.ofStanding? c.standing with
    | none => (c, none)
    | some a => (c.polled now draw, some a)

/-! ### Messages -/

/-- Hears one of its own announcements. -/
def hearEcho (c : Candidate) (a : Announcement) (now : Instant) : Candidate × List Consequence :=
  if c.standing = .verifying then (c.transition .starting now, [])
  else if Announcement.ofStanding? c.standing ≠ some a ∨ c.attempts ≤ c.policy.minAttempts then
    (c, [])
  else
    match c.standing with
    | .starting => (c.transition .requesting1 now, [])
    | .requesting1 => (c.transition .requesting2 now, [])
    | .requesting2 => (c.transition .takingControl now, [])
    | .takingControl => ((c.activate now).getD c, [.promoted])
    | _ => (c, [])

/-- Whether the candidate gives way to a sender that makes this announcement: it is further down the
ladder, or on the same rung with a higher id. -/
def yieldsTo (c : Candidate) (sender : String) (a : Announcement) : Bool :=
  match c.standing.rung?, a.senderStanding?.bind Standing.rung? with
  | some own, some theirs => own < theirs || (own == theirs && sender < c.service)
  | _, _ => false

/-- Hears that another instance stands by. -/
def hearStandby (c : Candidate) (sender : String) : Candidate :=
  { c with
    partners := setPartner sender false c.partners
    knownMaster := if c.knownMaster = some sender then none else c.knownMaster }

/-- Hears that another instance is master. -/
def hearMaster (c : Candidate) (sender : String) (now : Instant) :
    Candidate × List Consequence :=
  let c := c.recordMaster sender
  -- Whatever the standing, the master has shown itself, so the time to stand by begins anew.
  let c := { c with standbyDeadline := some (c.deadlineFrom now) }
  -- Of two masters, the one that hears the other stands down.
  if c.standing = .active then
    (c.transition .inactive now, [.demoted, .broadcast .iAmStandby])
  else if c.standing.isContending then (c.transition .inactive now, [])
  else (c, [])

/-- Hears that another instance has resigned as master. -/
def hearResync (c : Candidate) (sender : String) (now : Instant) : Candidate :=
  let c := { c with
    partners := demoteAll (setPartner sender false c.partners)
    knownMaster := none }
  if c.standing = .inactive then c.transition .starting now else c

/-- Hears a contender. -/
def hearContender (c : Candidate) (sender : String) (a : Announcement) (now : Instant) :
    Candidate × List Consequence :=
  let c := c.meet sender
  if c.standing = .active then (c, [.broadcast .iAmMaster])
  else if c.yieldsTo sender a then
    -- A candidate that stands by already does not change its standing, so its deadline is set here.
    ({ c.transition .inactive now with standbyDeadline := some (c.deadlineFrom now) }, [])
  else (c, [])

/-- Hears an announcement of another instance. -/
def hearOther (c : Candidate) (sender : String) (a : Announcement) (now : Instant) :
    Candidate × List Consequence :=
  match a with
  | .iAmStandby => (c.hearStandby sender, [])
  | .iAmMaster => c.hearMaster sender now
  | .resyncMaster => (c.hearResync sender now, [])
  | .whoIsMaster =>
    (c.meet sender, if c.standing = .active then [.broadcast .iAmMaster] else [])
  | .requestingControl1 | .requestingControl2 | .takingControl => c.hearContender sender a now

/-- Hears an announcement. A candidate that takes no part does not listen. -/
def hear (c : Candidate) (isSelf : Bool) (sender : String) (a : Announcement) (now : Instant) :
    Candidate × List Consequence :=
  if c.standing = .disabled then (c, [])
  else if isSelf then c.hearEcho a now
  else c.hearOther sender a now

/-- Hears a message whose action is that text. -/
def process (c : Candidate) (isSelf : Bool) (sender action : String) (now : Instant) :
    Except Failure (Candidate × List Consequence) :=
  match Announcement.ofText action with
  | .error e => .error e
  | .ok a => .ok (c.hear isSelf sender a now)

/-! ### Status -/

/-- A snapshot of the candidate. -/
def status (c : Candidate) : ElectionStatus where
  name := c.name
  standing := c.standing
  attempts := c.attempts
  knownMaster := c.knownMaster
  partners := c.partners.map fun p => ⟨p.1, p.2⟩
  changes := c.changes

end Candidate

end CommandMesh
