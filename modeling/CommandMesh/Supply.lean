import CommandMesh.Time

/-!
# `CommandMesh.Supply`: fresh identifiers

A `Supply` hands out identifiers that differ from all it handed out before. Supplies with different
scopes never hand out the same identifier, so each node of a mesh draws from a scope of its own.

An identifier stands for one that is drawn at random, of which only that much is known: it differs
from all others and looks like five groups of hexadecimal digits. Keys of messages, ids of services
that were given none and tracking ids of faults are drawn here. Computations that may draw are in
the monad `Fresh`, so that whoever runs one has to say which supply it draws from, and a step that
draws nothing cannot disturb the next one.
-/

set_option autoImplicit false

namespace CommandMesh

/-- A source of identifiers: its scope and the number of the next one. -/
structure Supply where
  scope : Nat
  next : Nat := 0

/-- A computation that may draw identifiers. -/
abbrev Fresh := StateM Supply

namespace Supply

/-- The identifier with number `n` in a scope: five groups of hexadecimal digits, of which only the
second and the last vary. -/
def name (scope n : Nat) : String :=
  "ffffffff-" ++ String.ofList (Span.paddedDigits 4 scope) ++ "-4fff-bfff-"
    ++ String.ofList (Span.paddedDigits 12 n)

/-- Hands out the next identifier. -/
def fresh : Fresh String := fun s => (name s.scope s.next, { s with next := s.next + 1 })

end Supply

end CommandMesh
