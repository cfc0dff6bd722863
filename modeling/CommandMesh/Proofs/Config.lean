import CommandMesh.Config
import CommandMesh.Proofs.Wire.Overlay
import CommandMesh.Proofs.Wire.Payload

/-!
# `CommandMesh.Proofs.Config`: a file changes only what it names

The settings of a node are a record with two records inside, for retries and for the election; in a
file each has its member, and everything may be left out. `NodePolicy.overlaid S c` are the settings
that agree with `c` where `S` selects a setting and with the defaults everywhere else. It is written
out setting by setting, so that what a file with some of the settings means can be read off without
knowing how layouts are read. That it is what the layout of the settings computes is a definitional
fact (`NodePolicy.overlay_wire`), and a setting that is added to one and forgotten in the other
breaks it.

The settings occur twice: on their own, as a payload, and as the member `command` of the
configuration file of a node. The file has other members, which hold texts: names, addresses, a log
level. A file is loaded if its members can be read and its addresses are such; whether they are does
not depend on the settings (`NodeConfig.ofTexts?_policy`), and adding settings changes nothing about
the other members (`NodeConfig.ofJson?_command`). This is why the last theorem is about two files:
one that is loaded without settings, and the same one with settings among its members.

A file is any text that is a spelling of its JSON value: white space, escapes, the order of members
at every level and members of unknown names are free. The address parser is the one that loads the
file, and nothing is assumed about it. A file that cannot be loaded without settings is not covered.

The theorems:

* `NodePolicy.overlay_wire`, `NodePolicy.clear_wire`, `NodePolicy.defaults_wire`: the layout of the
  settings is one that the general theorems of `CommandMesh.Proofs.Wire.Overlay` apply to.
* `NodeConfig.load_of_spells`, `NodeConfig.ofJson?_command`, `NodeConfig.ofTexts?_policy`: the three
  stages of loading a file.
* `NodePolicy.partial_settings_overlay_defaults`: an object with some of the settings of `c` is read
  as just that, wherever its members stand and whatever others are among them, on its own and as the
  `command` member of a file.
-/

set_option autoImplicit false

namespace CommandMesh

namespace RetryPolicy

/-- The policy that agrees with `p` on what is selected and with the default elsewhere. -/
def overlaid (S : Selection) (p : RetryPolicy) : RetryPolicy where
  maxAttempts := if S ["max_attempts"] then p.maxAttempts else default.maxAttempts
  initialBackoff := if S ["initial_backoff_ms"] then p.initialBackoff else default.initialBackoff
  maxBackoff := if S ["max_backoff_ms"] then p.maxBackoff else default.maxBackoff
  jitter := if S ["jitter_ms"] then p.jitter else default.jitter

end RetryPolicy

namespace ElectionPolicy

/-- The policy that agrees with `p` on what is selected and with the default elsewhere. -/
def overlaid (S : Selection) (p : ElectionPolicy) : ElectionPolicy where
  enabled := if S ["enabled"] then p.enabled else default.enabled
  channel := if S ["negotiation_channel_id"] then p.channel else default.channel
  kind := if S ["negotiation_message_type"] then p.kind else default.kind
  pollInterval := if S ["poll_interval_ms"] then p.pollInterval else default.pollInterval
  pollJitter := if S ["poll_jitter_ms"] then p.pollJitter else default.pollJitter
  initialDelay := if S ["initial_delay_ms"] then p.initialDelay else default.initialDelay
  minAttempts := if S ["min_attempts"] then p.minAttempts else default.minAttempts
  standbyTimeout := if S ["standby_timeout_ms"] then p.standbyTimeout else default.standbyTimeout
  tick := if S ["tick_resolution_ms"] then p.tick else default.tick

end ElectionPolicy

namespace NodePolicy

/-- The settings that agree with `c` on what is selected and with the defaults elsewhere. -/
def overlaid (S : Selection) (c : NodePolicy) : NodePolicy where
  responseChannel :=
    if S ["response_channel_id"] then c.responseChannel else default.responseChannel
  requestTimeout :=
    if S ["default_request_timeout_ms"] then c.requestTimeout else default.requestTimeout
  sweepInterval :=
    if S ["outgoing_sweep_interval_ms"] then c.sweepInterval else default.sweepInterval
  allowBlockingSend :=
    if S ["allow_blocking_send"] then c.allowBlockingSend else default.allowBlockingSend
  routeCacheCapacity :=
    if S ["route_cache_capacity"] then c.routeCacheCapacity else default.routeCacheCapacity
  retry := c.retry.overlaid (S.under "retry")
  election := c.election.overlaid (S.under "master_job")

/-- The layout lays settings over the defaults one by one. -/
theorem overlay_wire (S : Selection) (c : NodePolicy) :
    wire.overlay S c default = c.overlaid S := rfl

/-- The layout of the settings tells all of them apart, as its description shows. -/
theorem clear_wire : wire.clear = true := by decide +kernel

/-- What the settings are read as that are left out are the defaults, also those of a record of
settings of which only some are left out. -/
theorem defaults_wire : wire.Defaults default :=
  ⟨rfl, trivial, rfl, trivial, rfl, trivial, rfl, trivial, rfl, trivial,
    rfl, ⟨rfl, trivial, rfl, trivial, rfl, trivial, rfl, trivial, trivial⟩,
    rfl, ⟨rfl, trivial, rfl, trivial, rfl, trivial, rfl, trivial, rfl, trivial, rfl, trivial,
      rfl, trivial, rfl, trivial, rfl, trivial, trivial⟩, trivial⟩

/-- An object with some of the settings is read as those laid over the defaults. -/
theorem ofJson?_of_holds {S : Selection} {c : NodePolicy} {j : Json} (h : wire.Holds S c j) :
    wire.ofJson? j = some (c.overlaid S) := by
  rw [Wire.ofJson?_of_holds clear_wire defaults_wire h, overlay_wire]

end NodePolicy

namespace NodeConfig

variable {ms all : List (Option String × Json)} {j : Json} {cfg : NodeConfig}

/-- A file is loaded as what its JSON value says. -/
theorem load_of_spells {file : String} (h : Json.Spells j.tokens (Text.bytes file)) :
    load (some (Text.bytes file)) =
      ((wire.ofJson? j).bind ofTexts?).elim (.error .parsing) .ok := by
  have hread : PayloadFormat.json.read? wire (Text.bytes file) = wire.ofJson? j := by
    simp only [PayloadFormat.read?, Json.parse?_spells h, Option.bind_some]
  simp only [load, Text.ofBytes?_bytes, hread]
  cases (wire.ofJson? j).bind ofTexts? <;> rfl

/-- A file that has no settings for the node leaves them as they are by default, and a file that
adds such settings changes nothing else. -/
theorem ofJson?_command (hms : Json.membersNamed "command" ms = []) {t : Texts}
    (h : wire.ofJson? (.object ms) = some t) (hall : all.Perm (Json.member "command" j :: ms)) :
    t.policy = .default ∧
      wire.ofJson? (.object all) =
        (NodePolicy.wire.ofJson? j).map fun policy => { t with policy } := by
  have hperm :
      wire.ofJson? (.object all) = wire.ofJson? (.object (Json.member "command" j :: ms)) :=
    congrArg (Option.map _) (Wire.ofJson?_object_perm hall)
  rw [hperm]
  simp only [wire, Wire.ofJson?_iso, Wire.ofJson?_object, Wire.ofJson?_member] at h ⊢
  by_cases hnames : (ms.all fun m => m.1.isSome) = true
  · rw [if_pos hnames] at h
    simp only [Option.map_eq_some_iff, Option.bind_eq_some_iff, Option.some.injEq] at h
    -- Each of the other members is read by itself.
    obtain ⟨_, ⟨bind, hbind, _, ⟨peers, hpeers, _, ⟨http, hhttp, _, ⟨name, hname, _, ⟨level, hlevel,
      _, ⟨policy, hpolicy, _, -, rfl⟩, rfl⟩, rfl⟩, rfl⟩, rfl⟩, rfl⟩, rfl⟩ := h
    rw [hms] at hpolicy
    refine ⟨(Option.some.inj hpolicy).symm, ?_⟩
    -- The new member has a name that can be read, and it is found under no other name.
    have hall : ((Json.member "command" j :: ms).all fun m => m.1.isSome) = true := hnames
    have hcommand : Json.membersNamed "command" (Json.member "command" j :: ms) = [j] := by
      rw [Wire.membersNamed_member_self, hms]
    have hother {name' : String} (hne : "command" ≠ name') :
        Json.membersNamed name' (Json.member "command" j :: ms) = Json.membersNamed name' ms :=
      Wire.membersNamed_member_of_ne hne j ms
    rw [if_pos hall, hother (by decide), hother (by decide), hother (by decide), hother (by decide),
      hother (by decide), hcommand, hbind, hpeers, hhttp, hname, hlevel]
    simp only [Option.bind_some, Wire.memberOf?]
    cases NodePolicy.wire.ofJson? j <;> rfl
  · rw [if_neg hnames] at h
    cases h

/-- The settings for the node go through as they are, whatever the addresses are. -/
theorem ofTexts?_policy {t : Texts} (h : ofTexts? t = some cfg) (policy : NodePolicy) :
    ofTexts? { t with policy } = some { cfg with policy } ∧ cfg.policy = t.policy := by
  simp only [ofTexts?, Option.bind_eq_bind, Option.bind_eq_some_iff] at h
  obtain ⟨bind, hbind, peers, hpeers, diagnostics, hdiagnostics, hcfg⟩ := h
  obtain rfl := Option.some.inj hcfg
  simp only [ofTexts?, hbind, hpeers, hdiagnostics, Option.bind_eq_bind, Option.bind_some, and_self]

end NodeConfig

/-- A file changes only what it names. Let `c` be any settings and `S` any choice of them, those for
retries and for the election included.

* There is an object with just these settings. Every spelling of such an object, its members in any
  order and others of unknown names among them at each level, is read as the settings that agree
  with `c` where `S` chooses and with the defaults elsewhere.
* Every spelling of an object that names a known member twice, at whatever level, is refused.
* A file without settings for the node leaves them at their defaults. With such an object as its
  member `command` it is loaded as before but for these settings.
* A file that names a known member twice, at whatever level, is not loaded. -/
theorem NodePolicy.partial_settings_overlay_defaults (c : NodePolicy) (S : Selection) :
    NodePolicy.wire.Holds S c (NodePolicy.wire.part S c) ∧
      (∀ j, NodePolicy.wire.Holds S c j → ∀ bs, Json.Spells j.tokens bs →
        PayloadFormat.json.read NodePolicy.wire bs = .ok (c.overlaid S)) ∧
      (∀ j, NodePolicy.wire.Repeats j → ∀ bs, Json.Spells j.tokens bs →
        PayloadFormat.json.read NodePolicy.wire bs = .error (.codec "malformed payload")) ∧
      (∀ ms file cfg, Json.membersNamed "command" ms = [] →
        Json.Spells (Json.object ms).tokens (Text.bytes file) →
        NodeConfig.load (some (Text.bytes file)) = .ok cfg →
        cfg.policy = .default ∧ ∀ j all file', NodePolicy.wire.Holds S c j →
          all.Perm (Json.member "command" j :: ms) →
          Json.Spells (Json.object all).tokens (Text.bytes file') →
          NodeConfig.load (some (Text.bytes file')) = .ok { cfg with policy := c.overlaid S }) ∧
      (∀ j file, NodeConfig.wire.Repeats j → Json.Spells j.tokens (Text.bytes file) →
        NodeConfig.load (some (Text.bytes file)) = .error .parsing) := by
  refine ⟨Wire.holds_part (Or.inl rfl) c, fun j hj bs hbs => ?_, fun j hj bs hbs => ?_,
    fun ms file cfg hms hfile hcfg => ?_, fun j file hj hfile => ?_⟩
  · simp only [PayloadFormat.read, PayloadFormat.read?, Json.parse?_spells hbs, Option.bind_some,
      NodePolicy.ofJson?_of_holds hj]
  · simp only [PayloadFormat.read, PayloadFormat.read?, Json.parse?_spells hbs, Option.bind_some,
      Wire.ofJson?_of_repeats hj]
  · -- The file without the member is read, so all its other members are.
    rw [NodeConfig.load_of_spells hfile] at hcfg
    obtain ⟨t, ht, hconfig⟩ : ∃ t, NodeConfig.wire.ofJson? (.object ms) = some t ∧
        NodeConfig.ofTexts? t = some cfg := by
      cases hread : (NodeConfig.wire.ofJson? (.object ms)).bind NodeConfig.ofTexts? with
      | none => simp [hread] at hcfg
      | some cfg' =>
        simp only [hread, Option.elim_some, Except.ok.injEq] at hcfg
        exact Option.bind_eq_some_iff.mp (hread.trans (congrArg some hcfg))
    have hpolicy := (NodeConfig.ofTexts?_policy hconfig .default).2
    refine ⟨hpolicy.trans (NodeConfig.ofJson?_command (j := .null) hms ht (.refl _)).1,
      fun j all file' hj hall hfile' => ?_⟩
    have hread := (NodeConfig.ofJson?_command hms ht hall).2
    rw [NodePolicy.ofJson?_of_holds hj, Option.map_some] at hread
    rw [NodeConfig.load_of_spells hfile', hread, Option.bind_some,
      (NodeConfig.ofTexts?_policy hconfig (c.overlaid S)).1, Option.elim_some]
  · rw [NodeConfig.load_of_spells hfile, Wire.ofJson?_of_repeats hj, Option.bind_none,
      Option.elim_none]

end CommandMesh
