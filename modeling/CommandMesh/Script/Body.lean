import CommandMesh.Schedule.Job

/-!
# `CommandMesh.Script.Body`: work that follows a script

A `BodyScript` says in data what the work of a host does: how long a run lasts, how many runs end
well, and how the runs after those end.

The work of a host is a parameter of a schedule, a function from the number of the run to its
course. A script is one way to name such a function, enough to try a mesh out. Scripted work starts
whenever it is asked to: work that dies before its run begins is given as a function.
-/

set_option autoImplicit false

namespace CommandMesh

/-- What work of a host does. -/
structure BodyScript where
  duration : Span := 0
  /-- How many runs end well. -/
  good : Nat := 0
  /-- How the runs after those end. -/
  later : Ending := .ok

namespace BodyScript

/-- The run after so many others. -/
def course (s : BodyScript) (runs : Nat) : Course where
  duration := s.duration
  ending := if runs < s.good then .ok else s.later

/-- The work that follows the script, with a meter of its own. -/
def toBody (s : BodyScript) (meter : Nat) : Body :=
  .host meter { refuses := fun _ => false, course := s.course }

end BodyScript

end CommandMesh
