import CommandMesh.Router.Table

/-!
# `CommandMesh.Proofs.Router.Cache`: the cache of a routing table does not show

A router keeps routes in the order of their registration and a cache of what headers resolved to. A
`Directory` is a routing table without a cache: a list of routes that every look-up goes through
from the front. `Router.run_refines` compares the two. Whatever is registered, removed and looked
up, and in whatever order, a router gives the replies that a directory gives, the routes in them
told apart by number. So a host cannot find out that there is a cache, but by the time that a
look-up takes, which is not modelled.

The capacity of the cache is any number, zero included; with a cache that holds nothing the theorem
is about plain look-ups. Handlers are of any type and are only carried along. What is not compared
are the tallies of a route, which count calls and change nothing about how headers resolve.

The comparison rests on `Router.Sound`, which every operation keeps:

* a header in the cache is there with the result of a look-up in the present routes (`coherent`);
* routes have ascending numbers, all below that of the next one (`numbered`, `fresh`);
* the cache holds a header once and no more headers than it may (`keyed`, `bounded`).

Coherence is what registering and removing put at risk. A new route comes last, so a header that had
a route keeps it, and the headers that had none are forgotten (`Sound.register`). A removed route
takes the headers that it had with it, and no other header can have lost its route
(`Sound.unregister`). That a route is known by its number is what the second needs: two routes may
be alike in every other respect, and only one of them is removed.

The theorems:

* `Router.Sound.perform`, `Router.Sound.run`: every operation keeps a table sound.
* `Router.Sound.resolve_eq_scan`: a header resolves to the first route that matches it.
* `Router.run_refines`: the routes and the replies are those of a directory.
* `Router.cache_resolve_of_unheard`: a header that no route listens to never gets into the cache.
* `Router.cache_invisible_and_bounded`: all of this over every run from an empty table.
-/

set_option autoImplicit false

namespace CommandMesh

/-! ### Tables without a cache -/

/-- What is done with a routing table. -/
inductive RoutingOp (H : Type) where
  | register (pattern : RoutePattern) (handler : H) (reference : Option String)
      (masterOnly : Bool)
  | unregister (pattern : RoutePattern) (masterOnly : Bool)
  | resolve (h : Header)

/-- What an operation on a routing table gives. -/
inductive RoutingReply (H : Type) where
  | registered (route : Route H)
  | removed (found : Bool)
  | resolved (route : Option (Route H))

/-- A routing table without a cache. -/
structure Directory (H : Type) where
  routes : List (Route H) := []
  next : Nat := 0

namespace Directory

variable {H : Type}

/-- The first route that matches a header. -/
def find? (d : Directory H) (h : Header) : Option (Route H) :=
  d.routes.find? fun r => r.pattern.matchesHeader h

/-- Performs an operation: a new route is appended, and the first one with the pattern and the
restriction to the master is erased. -/
def perform (d : Directory H) : RoutingOp H → Directory H × RoutingReply H
  | .register pattern handler reference masterOnly =>
    let route : Route H := ⟨d.next, pattern, handler, reference, masterOnly⟩
    (⟨d.routes ++ [route], d.next + 1⟩, .registered route)
  | .unregister pattern masterOnly =>
    let wanted := fun r : Route H => r.pattern == pattern && r.masterOnly == masterOnly
    ({ d with routes := d.routes.eraseP wanted }, .removed (d.routes.any wanted))
  | .resolve h => (d, .resolved (d.find? h))

/-- Performs operations in turn, and gives their replies. -/
def run (d : Directory H) : List (RoutingOp H) → Directory H × List (RoutingReply H)
  | [] => (d, [])
  | op :: ops =>
    let (d, reply) := d.perform op
    let (d, replies) := d.run ops
    (d, reply :: replies)

/-- The first operation is performed before the others. -/
theorem run_cons (d : Directory H) (op : RoutingOp H) (ops : List (RoutingOp H)) :
    d.run (op :: ops) = (((d.perform op).1.run ops).1,
      (d.perform op).2 :: ((d.perform op).1.run ops).2) := rfl

end Directory

namespace Router

variable {H : Type}

/-- Performs an operation on a routing table. -/
def perform (t : Router H) : RoutingOp H → Router H × RoutingReply H
  | .register pattern handler reference masterOnly =>
    let (t, route) := t.register pattern handler reference masterOnly
    (t, .registered route)
  | .unregister pattern masterOnly =>
    match t.unregister pattern masterOnly with
    | some t => (t, .removed true)
    | none => (t, .removed false)
  | .resolve h =>
    let (t, found) := t.resolve h
    (t, .resolved found)

/-- Performs operations in turn, and gives their replies. -/
def run (t : Router H) : List (RoutingOp H) → Router H × List (RoutingReply H)
  | [] => (t, [])
  | op :: ops =>
    let (t, reply) := t.perform op
    let (t, replies) := t.run ops
    (t, reply :: replies)

/-- The first operation is performed before the others. -/
theorem run_cons (t : Router H) (op : RoutingOp H) (ops : List (RoutingOp H)) :
    t.run (op :: ops) = (((t.perform op).1.run ops).1,
      (t.perform op).2 :: ((t.perform op).1.run ops).2) := rfl

/-- The table as it is without its cache. -/
def directory (t : Router H) : Directory H := ⟨t.routes, t.next⟩

/-! ### What every operation keeps -/

/-- The table and its cache fit together. -/
structure Sound (t : Router H) : Prop where
  /-- Routes stand in the order of their numbers. -/
  numbered : t.routes.Pairwise fun r r' => r.number < r'.number
  /-- No route has the number of the next one yet. -/
  fresh : ∀ r ∈ t.routes, r.number < t.next
  /-- A header is cached with what a look-up in the routes gives. -/
  coherent : ∀ c ∈ t.cache, c.2 = t.scan c.1
  /-- No header is cached twice. -/
  keyed : (t.cache.map (·.1)).Nodup
  /-- The cache is not overfull. -/
  bounded : t.cache.length ≤ t.capacity

/-- A look-up that finds another element than the one erased still finds it. -/
theorem find?_eraseP_of_ne {α : Type} {p q : α → Bool} {l : List α} {a b : α}
    (ha : l.find? p = some a) (hb : l.find? q = some b) (hne : a ≠ b) :
    (l.eraseP q).find? p = some a := by
  induction l with
  | nil => simp at ha
  | cons x l ih =>
    rw [List.find?_cons] at ha hb
    cases hq : q x with
    | true =>
      -- `x` is erased, and it is not what the look-up finds.
      have hbx : x = b := by simpa [hq] using hb
      have hp : p x = false := by
        cases hp : p x with
        | true =>
          have hxa : x = a := by simpa [hp] using ha
          exact absurd (hxa.symm.trans hbx) hne
        | false => rfl
      simpa [hq, hp] using ha
    | false =>
      cases hp : p x with
      | true => simpa [hq, hp] using ha
      | false =>
        rw [hp] at ha
        rw [hq] at hb
        simpa [hq, hp] using ih ha hb

/-- An empty table is sound, whatever its cache may hold. -/
theorem sound_empty (capacity : Nat) : (empty capacity : Router H).Sound where
  numbered := List.Pairwise.nil
  fresh := by simp [empty]
  coherent := by simp [empty]
  keyed := List.nodup_nil
  bounded := Nat.zero_le _

/-- Registering keeps a table sound: a header that has a route keeps it, and all others are
forgotten. -/
theorem Sound.register {t : Router H} (ht : t.Sound) (pattern : RoutePattern) (handler : H)
    (reference : Option String) (masterOnly : Bool) :
    (t.register pattern handler reference masterOnly).1.Sound where
  numbered := by
    refine List.pairwise_append.mpr ⟨ht.numbered, List.pairwise_singleton _ _, ?_⟩
    intro r hr r' hr'
    rw [List.mem_singleton.mp hr']
    exact ht.fresh r hr
  fresh := by
    intro r hr
    rcases List.mem_append.mp hr with hr | hr
    · exact Nat.lt_succ_of_lt (ht.fresh r hr)
    · rw [List.mem_singleton.mp hr]
      exact Nat.lt_succ_self _
  coherent := by
    intro c hc
    obtain ⟨hc, hsome⟩ := List.mem_filter.mp hc
    obtain ⟨r, hr⟩ := Option.isSome_iff_exists.mp hsome
    have hscan : t.scan c.1 = some r := by rw [← ht.coherent c hc, hr]
    -- The scan of the longer list stops where that of the shorter one did.
    show c.2 = (t.routes ++ _).find? _
    rw [List.find?_append, show t.routes.find? _ = some r from hscan, hr]
    rfl
  keyed := ht.keyed.sublist (List.filter_sublist.map _)
  bounded := Nat.le_trans (List.length_filter_le _ _) ht.bounded

/-- Removing keeps a table sound: the headers of the removed route are forgotten, and no other
header can have lost its route. -/
theorem Sound.unregister {t t' : Router H} (ht : t.Sound) {pattern : RoutePattern}
    {masterOnly : Bool} (h : t.unregister pattern masterOnly = some t') : t'.Sound := by
  obtain ⟨removed, hremoved, rfl⟩ := Option.map_eq_some_iff.mp h
  refine ⟨ht.numbered.sublist List.eraseP_sublist, ?_, ?_, ?_, ?_⟩
  · intro r hr
    exact ht.fresh r (List.mem_of_mem_eraseP hr)
  · intro c hc
    obtain ⟨hc, hspared⟩ := List.mem_filter.mp hc
    have hscan := ht.coherent c hc
    cases hknown : c.2 with
    -- A header without a route has none in a shorter list.
    | none =>
      rw [hknown] at hscan
      refine (List.find?_eq_none.mpr fun r hr => ?_).symm
      exact List.find?_eq_none.mp hscan.symm r (List.mem_of_mem_eraseP hr)
    | some r =>
      -- The cached route was spared, so it is not the removed one.
      have hne : r ≠ removed := by
        intro heq
        simp [spares, hknown, heq] at hspared
      rw [hknown] at hscan
      exact (find?_eraseP_of_ne hscan.symm hremoved hne).symm
  · exact ht.keyed.sublist (List.filter_sublist.map _)
  · exact Nat.le_trans (List.length_filter_le _ _) ht.bounded

/-- A look-up in the cache of a sound table gives what a look-up in the routes gives. -/
theorem Sound.eq_scan_of_lookup {t : Router H} (ht : t.Sound) {h : Header}
    {known : Option (Route H)} (hk : t.cache.lookup h = some known) : known = t.scan h := by
  obtain ⟨before, after, hcache, -⟩ := List.lookup_eq_some_iff.mp hk
  have hmem : (h, known) ∈ t.cache := by rw [hcache]; simp
  exact ht.coherent _ hmem

/-- Whether it comes from the cache or not: a header resolves to the first route that matches. -/
theorem Sound.resolve_eq_scan {t : Router H} (ht : t.Sound) (h : Header) :
    (t.resolve h).2 = t.scan h := by
  unfold resolve
  cases hk : t.cache.lookup h with
  | some known => exact ht.eq_scan_of_lookup hk
  | none => dsimp only; split <;> rfl

/-- A look-up leaves a table as it is, or remembers a header that is new and worth it while there
is room. -/
theorem resolve_cases (t : Router H) (h : Header) :
    (t.resolve h).1 = t ∨
      t.cache.lookup h = none ∧ t.worthCaching h ∧ t.cache.length < t.capacity ∧
        (t.resolve h).1 = { t with cache := (h, t.scan h) :: t.cache } := by
  unfold resolve
  cases hk : t.cache.lookup h with
  | some known => exact Or.inl rfl
  | none =>
    -- The header is not cached yet, and it is a matter of its worth and of the room whether it will
    -- be.
    by_cases hroom : (t.worthCaching h && t.cache.length < t.capacity) = true
    · have hboth : t.worthCaching h ∧ t.cache.length < t.capacity := by simpa using hroom
      refine Or.inr ⟨rfl, hboth.1, hboth.2, ?_⟩
      simp only [if_pos hroom]
    · refine Or.inl ?_
      simp only [if_neg hroom]

/-- A look-up keeps a table sound. -/
theorem Sound.resolve {t : Router H} (ht : t.Sound) (h : Header) : (t.resolve h).1.Sound := by
  rcases t.resolve_cases h with he | ⟨hk, -, hroom, he⟩ <;> rw [he]
  · exact ht
  · refine ⟨ht.numbered, ht.fresh, ?_, ?_, hroom⟩
    · rintro c (_ | ⟨_, hc⟩)
      · rfl
      · exact ht.coherent c hc
    · refine List.nodup_cons.mpr ⟨?_, ht.keyed⟩
      intro hmem
      obtain ⟨c, hc, rfl⟩ := List.mem_map.mp hmem
      exact absurd (List.lookup_eq_none_iff.mp hk c hc) (by simp)

/-- Every operation keeps a table sound. -/
theorem Sound.perform {t : Router H} (ht : t.Sound) (op : RoutingOp H) :
    (t.perform op).1.Sound := by
  cases op with
  | register pattern handler reference masterOnly => exact ht.register _ _ _ _
  | unregister pattern masterOnly =>
    unfold Router.perform
    dsimp only
    cases hu : t.unregister pattern masterOnly with
    | none => exact ht
    | some t' => exact ht.unregister hu
  | resolve h => exact ht.resolve h

/-- Operations in turn keep a table sound. -/
theorem Sound.run {t : Router H} (ht : t.Sound) (ops : List (RoutingOp H)) :
    (t.run ops).1.Sound := by
  induction ops generalizing t with
  | nil => exact ht
  | cons op ops ih => exact ih (ht.perform op)

/-! ### The comparison -/

/-- A look-up changes no route. -/
theorem directory_resolve (t : Router H) (h : Header) :
    (t.resolve h).1.directory = t.directory := by
  rcases t.resolve_cases h with he | ⟨-, -, -, he⟩ <;> rw [he]
  rfl

/-- No operation changes how much the cache may hold. -/
theorem capacity_perform (t : Router H) (op : RoutingOp H) :
    (t.perform op).1.capacity = t.capacity := by
  cases op with
  | register pattern handler reference masterOnly => rfl
  | unregister pattern masterOnly =>
    simp only [perform, unregister]
    cases t.find? pattern masterOnly <;> rfl
  | resolve h =>
    show (t.resolve h).1.capacity = t.capacity
    rcases t.resolve_cases h with he | ⟨-, -, -, he⟩ <;> rw [he]

/-- Over a whole run the cache may hold what it may hold at first. -/
theorem capacity_run (t : Router H) (ops : List (RoutingOp H)) :
    (t.run ops).1.capacity = t.capacity := by
  induction ops generalizing t with
  | nil => rfl
  | cons op ops ih => exact (ih _).trans (capacity_perform t op)

/-- One operation on a sound table does to its routes, and replies, what it does without the
cache. -/
theorem perform_refines {t : Router H} (ht : t.Sound) (op : RoutingOp H) :
    (t.perform op).1.directory = (t.directory.perform op).1 ∧
      (t.perform op).2 = (t.directory.perform op).2 := by
  cases op with
  | register pattern handler reference masterOnly => exact ⟨rfl, rfl⟩
  | unregister pattern masterOnly =>
    unfold perform Directory.perform unregister directory
    -- The router looks the route up before it erases it, and the directory erases at once.
    dsimp only
    cases hf : t.find? pattern masterOnly with
    | none =>
      -- Nothing has the pattern, so nothing is erased on either side.
      have hnone := List.find?_eq_none.mp hf
      refine ⟨?_, ?_⟩
      · simp only [Option.map_none]
        rw [List.eraseP_of_forall_not hnone]
      · simp only [Option.map_none]
        rw [List.any_eq_false.mpr hnone]
    | some removed =>
      have hany := List.any_eq_true.mpr ⟨removed, List.mem_of_find?_eq_some hf,
        List.find?_some hf⟩
      refine ⟨rfl, ?_⟩
      simp only [Option.map_some]
      rw [hany]
  | resolve h =>
    exact ⟨directory_resolve t h, congrArg RoutingReply.resolved (ht.resolve_eq_scan h)⟩

/-- Operations in turn on a sound table do to its routes, and reply, what they do without the
cache. -/
theorem run_refines {t : Router H} (ht : t.Sound) (ops : List (RoutingOp H)) :
    (t.run ops).1.directory = (t.directory.run ops).1 ∧
      (t.run ops).2 = (t.directory.run ops).2 := by
  induction ops generalizing t with
  | nil => exact ⟨rfl, rfl⟩
  | cons op ops ih =>
    obtain ⟨htable, hreply⟩ := perform_refines ht op
    obtain ⟨hrest, hreplies⟩ := ih (ht.perform op)
    rw [htable] at hrest hreplies
    rw [run_cons, Directory.run_cons, hreply, hreplies]
    exact ⟨hrest, rfl⟩

/-- A header that no route listens to is not added to the cache. -/
theorem cache_resolve_of_unheard (t : Router H) (h : Header)
    (hun : ∀ r ∈ t.routes, r.pattern.channel ≠ none ∧ r.pattern.channel ≠ some h.channel) :
    (t.resolve h).1.cache = t.cache := by
  have hadmits : ∀ r ∈ t.routes, RoutePattern.admits r.pattern.channel h.channel = false := by
    intro r hr
    obtain ⟨hopen, hother⟩ := hun r hr
    cases hc : r.pattern.channel with
    | none => exact absurd hc hopen
    | some c =>
      have hne : c ≠ h.channel := fun heq => hother (by rw [hc, heq])
      simpa [RoutePattern.admits] using hne
  have hscan : t.scan h = none := by
    refine List.find?_eq_none.mpr fun r hr => ?_
    simp [RoutePattern.matchesHeader, hadmits r hr]
  have hlistens : t.listensTo h.channel = false :=
    List.any_eq_false.mpr fun r hr => by simp [hadmits r hr]
  -- Neither found nor listened to, the header is not worth caching.
  rcases t.resolve_cases h with he | ⟨-, hworth, -, -⟩
  · rw [he]
  · simp [worthCaching, hscan, hlistens] at hworth

/-- The cache neither shows nor grows without bound. After any operations on an empty table:

* the routes are those of the list that every registration appends to and every removal erases
  the first fitting entry from, and all replies so far are those of this list;
* no two routes have the same number, so a reply names the very route;
* every header resolves to the first route of the list that matches it, or to none;
* the cache holds a header once, and no more headers than it may;
* a registration leaves no cached header without a route;
* a header whose channel no route listens to is not added to the cache. -/
theorem cache_invisible_and_bounded (capacity : Nat) (ops : List (RoutingOp H)) :
    let t := (empty capacity : Router H).run ops
    let d := ({} : Directory H).run ops
    t.1.routes = d.1.routes ∧ t.2 = d.2 ∧
      (t.1.routes.map (·.number)).Nodup ∧
      (∀ h, (t.1.resolve h).2 = d.1.routes.find? fun r => r.pattern.matchesHeader h) ∧
      (t.1.cache.map (·.1)).Nodup ∧ t.1.cache.length ≤ capacity ∧
      (∀ pattern handler reference masterOnly,
        ∀ c ∈ (t.1.register pattern handler reference masterOnly).1.cache, c.2.isSome) ∧
      (∀ h, (∀ r ∈ t.1.routes, r.pattern.channel ≠ none ∧ r.pattern.channel ≠ some h.channel) →
        (t.1.resolve h).1.cache = t.1.cache) := by
  intro t d
  have hsound : t.1.Sound := (sound_empty capacity).run ops
  obtain ⟨htable, hreplies⟩ := run_refines (sound_empty (H := H) capacity) ops
  -- The two sides have the same routes, so what is said of one is said of the other.
  have hroutes : t.1.routes = d.1.routes := congrArg Directory.routes htable
  refine ⟨hroutes, hreplies, ?_, ?_, hsound.keyed, ?_, ?_, cache_resolve_of_unheard t.1⟩
  · exact List.pairwise_map.mpr (hsound.numbered.imp Nat.ne_of_lt)
  · intro h
    rw [hsound.resolve_eq_scan h, ← hroutes]
    rfl
  · calc t.1.cache.length ≤ t.1.capacity := hsound.bounded
      _ = capacity := capacity_run _ ops
  · intro pattern handler reference masterOnly c hc
    exact (List.mem_filter.mp hc).2

end Router

end CommandMesh
