import CommandMesh.LogLevel
import CommandMesh.Net.Address
import CommandMesh.Policy
import CommandMesh.Wire.Payload

/-!
# `CommandMesh.Config`: the configuration file of a node

A configuration is a JSON object. Every setting has a default, so a file names only what it changes,
at any level of nesting. Members that are not settings are passed over, and a setting that is given
twice is refused.

`NodeConfig.load` reads the contents of a file and tells a file that cannot be read from one that is
no configuration. The contents are bytes, since a file need not be text. Where the file is and how
its bytes are got is left to the host.

Addresses stand in the file as texts. `NodeConfig.Texts` is a configuration as the file has it, for
which the layout is written down once (`NodeConfig.wire`), and `NodeConfig.ofTexts?` reads the
addresses in it.
-/

set_option autoImplicit false

namespace CommandMesh

/-- The configuration of a node. -/
structure NodeConfig where
  /-- Where the node listens. -/
  bind : SocketAddress
  /-- The nodes that every outbound message goes to. -/
  peers : List SocketAddress
  /-- Where the node tells about itself, if it is not the default place. -/
  diagnostics : Option SocketAddress
  name : String
  logLevel : String
  policy : NodePolicy
deriving DecidableEq

/-- Why a configuration could not be loaded. -/
inductive ConfigError where
  /-- There is no file, or its bytes are no text. -/
  | reading
  /-- The text is no configuration. -/
  | parsing
deriving DecidableEq

namespace NodeConfig

/-- The configuration when a file changes nothing. -/
def default : NodeConfig where
  bind := ⟨.quad 127 0 0 1, 5000⟩
  peers := []
  diagnostics := none
  name := "command-node"
  logLevel := "info"
  policy := .default

/-- A configuration as its file has it: the addresses are still texts. -/
structure Texts where
  bind : String
  peers : List String
  diagnostics : Option String
  name : String
  logLevel : String
  policy : NodePolicy

/-- The texts of a configuration. -/
def toTexts (c : NodeConfig) : Texts where
  bind := c.bind.text
  peers := c.peers.map (·.text)
  diagnostics := c.diagnostics.map (·.text)
  name := c.name
  logLevel := c.logLevel
  policy := c.policy

/-- Reads the addresses of a configuration. -/
def ofTexts? (t : Texts) : Option NodeConfig := do
  let bind ← SocketAddress.ofText? t.bind
  let peers ← t.peers.mapM SocketAddress.ofText?
  let diagnostics ← t.diagnostics.mapM SocketAddress.ofText?
  some { bind, peers, diagnostics, name := t.name, logLevel := t.logLevel, policy := t.policy }

/-- The layout of a configuration. Members that are left out have their default values. -/
def wire : Wire .value Texts :=
  .iso
    (.record <| .withDefault "bind" .text default.toTexts.bind
      <| .withDefault "peers" (.list .text) default.toTexts.peers
      <| .withDefault "http_addr" (.option .text) default.toTexts.diagnostics
      <| .withDefault "command_name" .text default.toTexts.name
      <| .withDefault "log_level" .text default.toTexts.logLevel
      <| .withDefault "command" NodePolicy.wire default.toTexts.policy .done)
    (fun (b, p, d, n, l, c, ()) => ⟨b, p, d, n, l, c⟩)
    (fun t => (t.bind, t.peers, t.diagnostics, t.name, t.logLevel, t.policy, ()))
    (fun _ => rfl) (fun _ => rfl)

/-- Loads a configuration from the contents of its file; `none` if there is no file. -/
def load : Option (List UInt8) → Except ConfigError NodeConfig
  | none => .error .reading
  | some contents =>
    match Text.ofBytes? contents with
    | none => .error .reading
    | some _ =>
      match (PayloadFormat.json.read? wire contents).bind ofTexts? with
      | none => .error .parsing
      | some c => .ok c

/-- A configuration as JSON. -/
def toJson (c : NodeConfig) : Json := wire.toJson c.toTexts

/-- How far the port for diagnostics is from that of the node when nothing else is configured. -/
def diagnosticsOffset : Nat := 1000

/-- Where the node tells about itself. -/
def diagnosticsAddress (c : NodeConfig) : SocketAddress :=
  c.diagnostics.getD (c.bind.shifted diagnosticsOffset)

/-- The threshold of the log. -/
def level (c : NodeConfig) : LogLevel := .ofSetting c.logLevel

end NodeConfig

end CommandMesh
