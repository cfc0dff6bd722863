import CommandMesh.Router.Basic

/-!
# `CommandMesh.Router.Table`: the routing table and its cache

Routes are kept in the order of their registration and the first one that matches a header gets the
message. `Router.resolve` remembers what a header resolved to, for `capacity` headers at most:

* a new route comes after all others, so only headers that had no route can change: they are
  forgotten;
* when a route is removed, the headers that resolved to it are forgotten;
* that a header has no route is remembered only if some route listens to its channel.

The cache has no other rule for what it drops: once it is full, nothing is added until a change of
the routes makes room. A capacity of zero is a table without a cache. Tallies belong to numbers of
routes, so those of a route that was removed are not taken for those of another one.
-/

set_option autoImplicit false

namespace CommandMesh

/-- A routing table with its cache and its tallies. -/
structure Router (H : Type) where
  /-- Routes in the order of their registration. -/
  routes : List (Route H) := []
  /-- What headers resolved to. -/
  cache : List (Header × Option (Route H)) := []
  /-- The most headers that the cache holds. -/
  capacity : Nat
  /-- The number of the next route. -/
  next : Nat := 0
  /-- Tallies by the number of the route. -/
  tallies : List (Nat × Tally) := []

namespace Router

variable {H : Type}

/-- A table without routes. -/
def empty (capacity : Nat) : Router H := { capacity }

/-- How many headers a cache holds when nothing else is asked for. -/
def defaultCapacity : Nat := 4096

/-! ### Registration -/

/-- Appends a route. -/
def register (t : Router H) (pattern : RoutePattern) (handler : H) (reference : Option String)
    (masterOnly : Bool) : Router H × Route H :=
  let route : Route H := ⟨t.next, pattern, handler, reference, masterOnly⟩
  ({ t with
      routes := t.routes ++ [route]
      -- A header that has a route keeps it, for the new one comes last.
      cache := t.cache.filter fun c => c.2.isSome
      next := t.next + 1 },
    route)

/-- The first route with this pattern and this restriction to the master. -/
def find? (t : Router H) (pattern : RoutePattern) (masterOnly : Bool) : Option (Route H) :=
  t.routes.find? fun r => r.pattern == pattern && r.masterOnly == masterOnly

/-- Whether a cached resolution is to another route than number `n`. -/
def spares (n : Nat) (c : Header × Option (Route H)) : Bool := c.2.all fun r => r.number != n

/-- Removes the first route with this pattern and this restriction to the master. -/
def unregister (t : Router H) (pattern : RoutePattern) (masterOnly : Bool) : Option (Router H) :=
  (t.find? pattern masterOnly).map fun removed =>
    { t with
      routes := t.routes.eraseP fun r => r.pattern == pattern && r.masterOnly == masterOnly
      -- A header of the removed route may now go to a later one.
      cache := t.cache.filter (spares removed.number) }

/-! ### Resolution -/

/-- The first route that matches a header. -/
def scan (t : Router H) (h : Header) : Option (Route H) :=
  t.routes.find? fun r => r.pattern.matchesHeader h

/-- Whether some route listens to the channel. -/
def listensTo (t : Router H) (channel : String) : Bool :=
  t.routes.any fun r => RoutePattern.admits r.pattern.channel channel

/-- Whether what a header resolves to is worth remembering. -/
def worthCaching (t : Router H) (h : Header) : Bool :=
  (t.scan h).isSome || t.listensTo h.channel

/-- The route of a header, from the cache if it is there, and the table that remembers it. -/
def resolve (t : Router H) (h : Header) : Router H × Option (Route H) :=
  match t.cache.lookup h with
  | some known => (t, known)
  | none =>
    let found := t.scan h
    if t.worthCaching h && t.cache.length < t.capacity then
      ({ t with cache := (h, found) :: t.cache }, found)
    else (t, found)

/-! ### Tallies -/

/-- What is counted about a route. -/
def tally (t : Router H) (route : Nat) : Tally := (t.tallies.lookup route).getD {}

/-- Counts something about a route. -/
def count (t : Router H) (route : Nat) (f : Tally → Tally) : Router H :=
  { t with tallies := (route, f (t.tally route)) :: t.tallies.filter (·.1 != route) }

/-- What is told about the routes, in their order. -/
def stats (t : Router H) : List RouteStats := t.routes.map fun r => r.stats (t.tally r.number)

end Router

end CommandMesh
