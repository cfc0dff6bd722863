/-!
# `CommandMesh.Failure`: what callers of a node can do wrong

A `Failure` is misuse of the interface or a hard failure of a part that a node relies on. Outcomes
that are expected in operation, such as a time-out, are no failures: they come back as values with a
status.

Callers can tell failures apart by their constructors, and people read `Failure.message`. A failure
of a payload carries a text about what was wrong with it, which may quote the payload. Its caller
gets the text; where the failure becomes a fault of a handler, the text is left out (`Fault.text`).
-/

set_option autoImplicit false

namespace CommandMesh

/-- Why an operation was refused. -/
inductive Failure where
  /-- A request reuses a correlation id that still waits for its answer. -/
  | duplicateCorrelation (id : String)
  /-- The node is not running. -/
  | notStarted (node : String)
  /-- The node is running already. -/
  | alreadyStarted (node : String)
  /-- A payload could not be written or read. -/
  | codec (detail : String)
  /-- A message could not be handed on. -/
  | dispatch (reason : String)
  /-- Sends that block a thread are switched off. -/
  | blockingSendDisabled
  /-- A message of the election carries an action that is none of its announcements. -/
  | unknownAnnouncement (text : String)
  /-- An argument was refused. -/
  | invalidArgument (reason : String)
deriving DecidableEq

namespace Failure

/-- The failure in words. -/
def message : Failure → String
  | duplicateCorrelation id => "Duplicate correlation id: " ++ id
  | notStarted node => "Command '" ++ node ++ "' has not been started"
  | alreadyStarted node => "Command '" ++ node ++ "' is already running"
  | codec detail => "Payload codec error: " ++ detail
  | dispatch reason => "Dispatch failed: " ++ reason
  | blockingSendDisabled => "Blocking send is disabled for this command"
  | unknownAnnouncement text => "Negotiation protocol violation: unknown action '" ++ text ++ "'"
  | invalidArgument reason => "Invalid argument: " ++ reason

end Failure

end CommandMesh
