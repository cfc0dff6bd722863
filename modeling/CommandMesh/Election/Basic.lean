import CommandMesh.Failure
import CommandMesh.Text.Case
import CommandMesh.Time
import CommandMesh.Wire.Basic

/-!
# `CommandMesh.Election.Basic`: the ladder, the announcements and the policy of an election

Instances of one command elect a master by climbing a ladder of four rungs. A `Standing` says where
an instance is, an `Announcement` is what it broadcasts, and a `Consequence` is what its node has to
carry out after an event of the election.

An announcement is the action of a message on the channel of the election. It is read without regard
to white space around it and to the case of its letters, and any other text is refused as an unknown
announcement. The body of such a message plays no part.

An `ElectionPolicy` is the tuning of all that. Its spans are words of milliseconds, and its defaults
take no part in an election. Nothing keeps the instances of one command from having different
policies. `ElectionStatus` is what an instance tells about itself.
-/

set_option autoImplicit false

namespace CommandMesh

/-- Where an instance stands in the election. -/
inductive Standing where
  /-- Takes no part. -/
  | disabled
  /-- Waits to hear one of its own broadcasts before it joins. -/
  | verifying
  /-- Stands by while another instance is, or may be, master. -/
  | inactive
  /-- Asks who the master is. -/
  | starting
  | requesting1
  | requesting2
  /-- Has announced that it takes control and waits for the echo. -/
  | takingControl
  /-- Is master. -/
  | active
deriving DecidableEq

namespace Standing

/-- The name of a standing. -/
def name : Standing → String
  | disabled => "Disabled"
  | verifying => "VerifyingComms"
  | inactive => "Inactive"
  | starting => "Starting"
  | requesting1 => "Requesting1"
  | requesting2 => "Requesting2"
  | takingControl => "TakingControl"
  | active => "Active"

/-- The rung of a standing, standing by included as the lowest. `none` if the instance neither
climbs nor stands by. -/
def rung? : Standing → Option Nat
  | inactive => some 0
  | starting => some 1
  | requesting1 => some 2
  | requesting2 => some 3
  | takingControl => some 4
  | disabled | verifying | active => none

/-- Whether the instance is on its way to mastership. -/
def isContending : Standing → Bool
  | starting | requesting1 | requesting2 | takingControl => true
  | _ => false

/-- The layout of a standing. -/
def wire : Wire .value Standing :=
  .iso
    (.choice ["Disabled", "VerifyingComms", "Inactive", "Starting", "Requesting1", "Requesting2",
      "TakingControl", "Active"] (by decide) (by decide))
    (fun
      | 0 => disabled | 1 => verifying | 2 => inactive | 3 => starting
      | 4 => requesting1 | 5 => requesting2 | 6 => takingControl | 7 => active)
    (fun
      | disabled => 0 | verifying => 1 | inactive => 2 | starting => 3
      | requesting1 => 4 | requesting2 => 5 | takingControl => 6 | active => 7)
    (by decide) (fun b => by cases b <;> rfl)

end Standing

/-- What an instance broadcasts on the channel of the election. -/
inductive Announcement where
  | whoIsMaster
  | requestingControl1
  | requestingControl2
  | takingControl
  | iAmMaster
  | iAmStandby
  | resyncMaster
deriving DecidableEq

namespace Announcement

/-- The text of an announcement, as its message carries it. -/
def text : Announcement → String
  | whoIsMaster => "WhoIsMaster"
  | requestingControl1 => "RequestingControl1"
  | requestingControl2 => "RequestingControl2"
  | takingControl => "TakingControl"
  | iAmMaster => "IAmMaster"
  | iAmStandby => "IAmStandby"
  | resyncMaster => "ResyncMaster"

/-- All announcements. -/
def all : List Announcement :=
  [whoIsMaster, requestingControl1, requestingControl2, takingControl, iAmMaster, iAmStandby,
   resyncMaster]

/-- Reads an announcement. White space around it and the case of its letters do not count. -/
def ofText? (s : String) : Option Announcement :=
  all.find? fun a => Text.eqIgnoringAsciiCase a.text (Text.trim s)

/-- Reads an announcement or says that it is unknown. -/
def ofText (s : String) : Except Failure Announcement :=
  match ofText? s with
  | some a => .ok a
  | none => .error (.unknownAnnouncement s)

/-- The rung that an instance stands on when it makes this announcement. -/
def senderStanding? : Announcement → Option Standing
  | requestingControl1 => some .requesting1
  | requestingControl2 => some .requesting2
  | takingControl => some .takingControl
  | _ => none

/-- What an instance announces in this standing. -/
def ofStanding? : Standing → Option Announcement
  | .disabled => none
  | .verifying | .inactive | .starting => some whoIsMaster
  | .requesting1 => some requestingControl1
  | .requesting2 => some requestingControl2
  | .takingControl => some takingControl
  | .active => some iAmMaster

/-- The layout of an announcement. -/
def wire : Wire .value Announcement :=
  .iso
    (.choice ["WhoIsMaster", "RequestingControl1", "RequestingControl2", "TakingControl",
      "IAmMaster", "IAmStandby", "ResyncMaster"] (by decide) (by decide))
    (fun
      | 0 => whoIsMaster | 1 => requestingControl1 | 2 => requestingControl2 | 3 => takingControl
      | 4 => iAmMaster | 5 => iAmStandby | 6 => resyncMaster)
    (fun
      | whoIsMaster => 0 | requestingControl1 => 1 | requestingControl2 => 2 | takingControl => 3
      | iAmMaster => 4 | iAmStandby => 5 | resyncMaster => 6)
    (by decide) (fun b => by cases b <;> rfl)

end Announcement

/-- What a node has to carry out after an event of the election. -/
inductive Consequence where
  | broadcast (a : Announcement)
  /-- The instance became master. -/
  | promoted
  /-- The instance lost mastership to another one. -/
  | demoted
deriving DecidableEq

/-- The tuning of an election. Spans are in milliseconds. -/
structure ElectionPolicy where
  enabled : Bool
  channel : String
  /-- The kind of the election's messages; the name of the command if there is none. -/
  kind : Option String
  pollInterval : UInt64
  /-- The most that is added at random to the time before the next poll. -/
  pollJitter : UInt64
  initialDelay : UInt64
  /-- An echo lifts an instance to the next rung after more than this many polls. -/
  minAttempts : UInt32
  /-- How long an instance stands by without hearing of a master. -/
  standbyTimeout : UInt64
  /-- How often a node looks whether a poll is due. -/
  tick : UInt64
deriving DecidableEq

namespace ElectionPolicy

/-- The policy when nothing else is asked for: no part in an election. -/
def default : ElectionPolicy where
  enabled := false
  channel := "masterjob"
  kind := none
  pollInterval := 5000
  pollJitter := 1000
  initialDelay := 1000
  minAttempts := 2
  standbyTimeout := 20000
  tick := 250

/-- The usual policy of an instance that takes part. -/
def participating : ElectionPolicy := { default with enabled := true }

/-- The time between polls, before jitter. -/
def pollSpan (p : ElectionPolicy) : Span := .ofMillis p.pollInterval.toNat

/-- The time before the first poll. -/
def initialSpan (p : ElectionPolicy) : Span := .ofMillis p.initialDelay.toNat

/-- The time an instance stands by. -/
def standbySpan (p : ElectionPolicy) : Span := .ofMillis p.standbyTimeout.toNat

/-- The time between looks at the clock, a millisecond at least. -/
def tickSpan (p : ElectionPolicy) : Span := .ofMillis (max p.tick.toNat 1)

/-- The layout of a policy. Members that are left out have their default values. -/
def wire : Wire .value ElectionPolicy :=
  .iso
    (.record <| .withDefault "enabled" .bool default.enabled
      <| .withDefault "negotiation_channel_id" .text default.channel
      <| .withDefault "negotiation_message_type" (.option .text) default.kind
      <| .withDefault "poll_interval_ms" .word64 default.pollInterval
      <| .withDefault "poll_jitter_ms" .word64 default.pollJitter
      <| .withDefault "initial_delay_ms" .word64 default.initialDelay
      <| .withDefault "min_attempts" .word32 default.minAttempts
      <| .withDefault "standby_timeout_ms" .word64 default.standbyTimeout
      <| .withDefault "tick_resolution_ms" .word64 default.tick .done)
    (fun (e, c, k, i, j, d, m, s, t, ()) => ⟨e, c, k, i, j, d, m, s, t⟩)
    (fun p => (p.enabled, p.channel, p.kind, p.pollInterval, p.pollJitter, p.initialDelay,
      p.minAttempts, p.standbyTimeout, p.tick, ()))
    (fun _ => rfl) (fun _ => rfl)

end ElectionPolicy

/-- Another instance, as an election's status lists it. -/
structure PartnerStatus where
  service : String
  isMaster : Bool
deriving DecidableEq

/-- The layout of a partner. -/
def PartnerStatus.wire : Wire .value PartnerStatus :=
  .iso (.record <| .need "service_id" .text <| .need "is_master" .bool .done)
    (fun (s, m, ()) => ⟨s, m⟩) (fun p => (p.service, p.isMaster, ()))
    (fun _ => rfl) (fun _ => rfl)

/-- A snapshot of an instance in an election. -/
structure ElectionStatus where
  name : String
  standing : Standing
  attempts : UInt32
  knownMaster : Option String
  partners : List PartnerStatus
  changes : UInt64
deriving DecidableEq

/-- The layout of a snapshot. -/
def ElectionStatus.wire : Wire .value ElectionStatus :=
  .iso
    (.record <| .need "name" .text <| .need "state" Standing.wire <| .need "attempts" .word32
      <| .need "known_master" (.option .text) <| .need "partners" (.list PartnerStatus.wire)
      <| .need "state_changes" .word64 .done)
    (fun (n, s, a, m, p, c, ()) => ⟨n, s, a, m, p, c⟩)
    (fun s => (s.name, s.standing, s.attempts, s.knownMaster, s.partners, s.changes, ()))
    (fun _ => rfl) (fun _ => rfl)

end CommandMesh
